import StateSketch.Proofs.Wiring.Tree

/-!
# Reading sketches back

The text of every part of a sketch spells its tokens, provided that its symbols are names, so the
text of a sketch is read as the syntax tree of the sketch.
-/

namespace StateSketch

open Wiring

/-! ## Parts of lines -/

theorem Level.spells_word (level : Level) : Spells level.word [.name level.word] := by
  cases level <;> decide +kernel

theorem PinMode.spells_word (mode : PinMode) : Spells mode.word [.name mode.word] := by
  cases mode <;> decide +kernel

theorem spells_semicolon : Spells ";" [.mark .semicolon] := by decide +kernel

theorem spells_callEnd : Spells ");" [.mark .closeParen, .mark .semicolon] := by decide +kernel

theorem spells_closeBrace : Spells "\x7d" [.mark .closeBrace] := by decide +kernel

namespace Guard

theorem spells_pair {sign : Operator} {word left right : String} {before after : List Token}
    (hword : Spells word [.operator sign]) (hstarts : startsAlone word = true)
    (hsome : word.toList ≠ []) (hends : endsAlone word = true) (hleft : Spells left before)
    (hright : Spells right after) :
    Spells ("(" ++ left ++ word ++ right ++ ")")
      ([.mark .openParen] ++ before ++ [.operator sign] ++ after ++ [.mark .closeParen]) := by
  have hopen : Spells "(" [.mark .openParen] := by decide +kernel
  have hclose : Spells ")" [.mark .closeParen] := by decide +kernel
  exact (((hopen.append hleft (.inl (by decide))).append hword (.inr hstarts)).append hright
    (.inl (endsAlone_append _ hsome hends))).append hclose (.inr (by decide))

theorem spells_text {condition : Guard} (hsensors : ∀ sensor ∈ condition.sensors, IsName sensor) :
    Spells condition.text condition.tokens := by
  induction condition with
  | reads sensor level =>
    have hread : Spells "digitalRead(" [.name "digitalRead", .mark .openParen] := by decide +kernel
    have hequal : Spells ") == " [.mark .closeParen, .operator .equal] := by decide +kernel
    have hsensor := spells_name (hsensors sensor (by simp [sensors]))
    exact ((hread.append hsensor (.inl (by decide))).append hequal (.inr (by decide))).append
      level.spells_word (.inl (endsAlone_append _ (by decide) (by decide)))
  | both left right ihleft ihright =>
    exact spells_pair (by decide +kernel) (by decide) (by decide) (by decide)
      (ihleft fun sensor h ↦ hsensors sensor (by simp [sensors, h]))
      (ihright fun sensor h ↦ hsensors sensor (by simp [sensors, h]))
  | either left right ihleft ihright =>
    exact spells_pair (by decide +kernel) (by decide) (by decide) (by decide)
      (ihleft fun sensor h ↦ hsensors sensor (by simp [sensors, h]))
      (ihright fun sensor h ↦ hsensors sensor (by simp [sensors, h]))

end Guard

namespace Test

/-- The symbols in a test. -/
def symbols : Test → List String
  | .settled condition => condition.sensors
  | .elapsed _ => []

theorem spells_text {test : Test} (hsymbols : ∀ symbol ∈ test.symbols, IsName symbol) :
    Spells test.text test.tokens := by
  cases test with
  | settled condition =>
    exact (Guard.spells_text hsymbols).append (by decide +kernel) (.inr (by decide))
  | elapsed milliseconds =>
    have hlater : Spells "millis() - time > " (sinceTimeTokens ++ [.operator .greater]) := by
      decide +kernel
    exact hlater.append (spells_number milliseconds) (.inl (by decide))

end Test

namespace Step

/-- The symbols in a step. -/
def symbols : Step → List String
  | .configure pin _ => [pin]
  | .write pin _ => [pin]
  | .sampleGuard => []
  | .restartClock => []
  | .call function => [function]
  | .blink _ => []

/-- A call with a pin and a constant. -/
theorem spells_pinCall {opening function pin word : String}
    (hopening : Spells opening [.name function, .mark .openParen])
    (hends : endsAlone opening = true) (hpin : IsName pin) (hword : Spells word [.name word]) :
    Spells (opening ++ pin ++ ", " ++ word ++ ");")
      (callTokens function [.name pin, .mark .comma, .name word, .mark .closeParen]) := by
  have hcomma : Spells ", " [.mark .comma] := by decide +kernel
  have hpinned := (hopening.append (spells_name hpin) (.inl hends)).append hcomma (.inr (by decide))
  exact (hpinned.append hword (.inl (endsAlone_append _ (by decide) (by decide)))).append
    spells_callEnd (.inr (by decide))

theorem spells_text {step : Step} (hsymbols : ∀ symbol ∈ step.symbols, IsName symbol) :
    Spells step.text step.tokens := by
  cases step with
  | configure pin mode =>
    exact spells_pinCall (by decide +kernel) (by decide) (hsymbols pin (by simp [symbols]))
      mode.spells_word
  | write pin level =>
    exact spells_pinCall (by decide +kernel) (by decide) (hsymbols pin (by simp [symbols]))
      level.spells_word
  | sampleGuard => decide +kernel
  | restartClock => decide +kernel
  | call function =>
    exact (spells_name (hsymbols function (by simp [symbols]))).append (by decide +kernel)
      (.inr (by decide))
  | blink count =>
    have hopen : Spells (blinkHelper ++ "(") [.name blinkHelper, .mark .openParen] := by
      decide +kernel
    exact (hopen.append (spells_number count) (.inl (by decide))).append spells_callEnd
      (.inr (by decide))

end Step

/-! ## Lines -/

namespace Wiring

/-- Lines that do not run into one another, and the tokens in them. -/
structure SpellsLines (lines : List String) (spelled : List Token) : Prop where
  single_lines : ∀ line ∈ lines, '\n' ∉ line.toList
  tokens_eq : lineTokens (lines.map String.toList) = spelled

namespace SpellsLines

variable {first second : List String} {before after : List Token}

theorem nil : SpellsLines [] [] :=
  ⟨by simp, rfl⟩

theorem append (hfirst : SpellsLines first before) (hsecond : SpellsLines second after) :
    SpellsLines (first ++ second) (before ++ after) := by
  constructor
  · intro line hline
    exact (List.mem_append.1 hline).elim (hfirst.single_lines line) (hsecond.single_lines line)
  · rw [← hfirst.tokens_eq, ← hsecond.tokens_eq]
    simp [lineTokens]

theorem flatMap {α : Type} {lines : α → List String} {spelled : α → List Token} {parts : List α}
    (hparts : ∀ part ∈ parts, SpellsLines (lines part) (spelled part)) :
    SpellsLines (parts.flatMap lines) (parts.flatMap spelled) := by
  induction parts with
  | nil => exact nil
  | cons part rest ih =>
    exact (hparts part List.mem_cons_self).append
      (ih fun other hother ↦ hparts other (List.mem_cons_of_mem _ hother))

theorem single {line : String} {spelled : List Token} (hline : Spells line spelled) :
    SpellsLines [line] (directive spelled) := by
  constructor
  · simpa using hline.single_line
  · simp [lineTokens, hline.tokens_eq]

/-- Blanks in front of lines are not read. -/
theorem indent (hlines : SpellsLines first before) : SpellsLines (indent 2 first) before := by
  have hline (line : String) (hline : line ∈ first) :
      Spells (if line.isEmpty then line else "".pushn ' ' 2 ++ line) (tokens line) := by
    have hplain : Spells line (tokens line) := ⟨hlines.single_lines line hline, rfl⟩
    split
    · exact hplain
    · have hblanks : Spells ("".pushn ' ' 2) [] := by decide +kernel
      exact hblanks.append hplain (.inl (by decide +kernel))
  constructor
  · intro indented hindented
    obtain ⟨line, hmem, rfl⟩ := List.mem_map.1 hindented
    exact (hline line hmem).single_line
  · rw [← hlines.tokens_eq]
    simp only [lineTokens, StateSketch.indent, List.map_map, List.flatMap_map, Function.comp_apply,
      String.ofList_toList]
    exact List.flatMap_congr fun line hmem ↦ congrArg directive (hline line hmem).tokens_eq

end SpellsLines

end Wiring

theorem spellsLines_steps {steps : List Step}
    (hsteps : ∀ step ∈ steps, ∀ symbol ∈ step.symbols, IsName symbol) :
    SpellsLines (stepLines steps) (stepTokens steps) := by
  have hline (step : Step) (hstep : step ∈ steps) : SpellsLines [step.text] step.tokens := by
    have hsingle := SpellsLines.single (Step.spells_text (hsteps step hstep))
    cases step <;> exact hsingle
  rw [stepLines, List.map_eq_flatMap]
  exact .flatMap hline

namespace Branch

def symbols (branch : Branch) : List String :=
  branch.test.symbols ++ branch.body.flatMap (·.symbols)

/-- A branch after the tokens of its opening. -/
theorem spellsLines {branch : Branch} {opening : String} {before : List Token}
    (hopening : Spells (opening ++ "if (") (before ++ [.keyword .ifWord, .mark .openParen]))
    (hdirective : ∀ rest, directive (before ++ .keyword .ifWord :: rest) =
      before ++ .keyword .ifWord :: rest)
    (hsymbols : ∀ symbol ∈ branch.symbols, IsName symbol) :
    SpellsLines (branch.lines opening) (before ++ branch.tokens) := by
  have htest : Spells branch.test.text branch.test.tokens :=
    Test.spells_text fun symbol h ↦ hsymbols symbol (List.mem_append_left _ h)
  have hbody := spellsLines_steps fun step hstep symbol h ↦
    hsymbols symbol (List.mem_append_right _ (List.mem_flatMap.2 ⟨step, hstep, h⟩))
  have hclose : Spells ") \x7b" [.mark .closeParen, .mark .openBrace] := by decide +kernel
  have hhead := SpellsLines.single ((hopening.append htest
    (.inl (endsAlone_append _ (by decide) (by decide)))).append hclose (.inr (by decide)))
  have hall := hhead.append hbody.indent
  simpa [hdirective, Branch.lines, Branch.tokens] using hall

end Branch

namespace Statement

def symbols : Statement → List String
  | .step single => single.symbols
  | .choose first rest otherwise =>
    first.symbols ++ rest.flatMap (·.symbols) ++ otherwise.flatMap (·.symbols)

theorem spellsLines {statement : Statement}
    (hsymbols : ∀ symbol ∈ statement.symbols, IsName symbol) :
    SpellsLines statement.lines statement.tokens := by
  cases statement with
  | step single =>
    have hsteps : ∀ step ∈ [single], ∀ symbol ∈ step.symbols, IsName symbol := by
      simpa [symbols] using hsymbols
    simpa [stepLines, stepTokens, lines, tokens] using spellsLines_steps hsteps
  | choose first rest otherwise =>
    simp only [symbols, List.mem_append, List.mem_flatMap] at hsymbols
    have hfirst : SpellsLines (first.lines "") ([] ++ first.tokens) :=
      Branch.spellsLines (by decide +kernel) (fun _ ↦ rfl)
        fun symbol h ↦ hsymbols symbol (.inl (.inl h))
    have hrest : SpellsLines (rest.flatMap (·.lines "\x7d else "))
        (rest.flatMap fun branch ↦ [.mark .closeBrace, .keyword .elseWord] ++ branch.tokens) :=
      .flatMap fun branch hbranch ↦ Branch.spellsLines (by decide +kernel) (fun _ ↦ rfl)
        fun symbol h ↦ hsymbols symbol (.inl (.inr ⟨branch, hbranch, h⟩))
    have helse : Spells "\x7d else \x7b"
        [.mark .closeBrace, .keyword .elseWord, .mark .openBrace] := by
      decide +kernel
    have hotherwise := spellsLines_steps fun step hstep symbol h ↦
      hsymbols symbol (.inr ⟨step, hstep, h⟩)
    have hall := (((hfirst.append hrest).append (.single helse)).append hotherwise.indent).append
      (.single spells_closeBrace)
    simpa [lines, tokens, elseTokens, directive] using hall

end Statement

/-! ## Functions and declarations -/

theorem spellsLines_blank : SpellsLines [""] [] :=
  ⟨by decide, by decide +kernel⟩

theorem spellsLines_function {opening name : String} {list body : List Token}
    {lines : List String}
    (hopening : Spells opening
      ([.keyword .void, .name name, .mark .openParen] ++ list ++ [.mark .openBrace]))
    (hbody : SpellsLines lines body) :
    SpellsLines (opening :: lines ++ ["\x7d"]) (functionTokens name list body) := by
  have hall := ((SpellsLines.single hopening).append hbody).append (.single spells_closeBrace)
  simpa [functionTokens, directive] using hall

theorem PinDeclaration.spells_text {declaration : PinDeclaration}
    (hpin : IsName declaration.pin) : Spells declaration.text declaration.tokens := by
  have hint : Spells "int " [.keyword (.type .int)] := by decide +kernel
  have hassign : Spells " = " [.mark .assign] := by decide +kernel
  have hname := (hint.append (spells_name hpin) (.inl (by decide))).append hassign
    (.inr (by decide))
  exact (hname.append (spells_number declaration.port)
    (.inl (endsAlone_append _ (by decide) (by decide)))).append spells_semicolon (.inr (by decide))

/-- The variables that every sketch declares. -/
theorem spellsLines_variables (debounce : Nat) :
    SpellsLines ["long time = 0;", "long debounce = " ++ toString debounce ++ ";", ""]
      (variableTokens .long "time" 0 ++ variableTokens .long "debounce" debounce) := by
  have htime : Spells "long time = 0;" (variableTokens .long "time" 0) := by decide +kernel
  have hlong : Spells "long debounce = "
      [.keyword (.type .long), .name "debounce", .mark .assign] := by
    decide +kernel
  have hdebounce := (hlong.append (spells_number debounce) (.inl (by decide))).append
    spells_semicolon (.inr (by decide))
  exact ((SpellsLines.single htime).append (.single hdebounce)).append spellsLines_blank

theorem spellsLines_define (pin : Nat) :
    SpellsLines ["#define " ++ faultPinName ++ " " ++ toString pin, ""]
      [.define faultPinName pin] := by
  have hword : Spells ("#define " ++ faultPinName ++ " ")
      [.mark .hash, .name "define", .name faultPinName] := by
    decide +kernel
  exact (SpellsLines.single (hword.append (spells_number pin) (.inl (by decide)))).append
    spellsLines_blank

theorem spellsLines_pins {pins : List PinDeclaration}
    (hpins : ∀ declaration ∈ pins, IsName declaration.pin) :
    SpellsLines (pinLines pins) (pins.flatMap (·.tokens)) := by
  have hlines : SpellsLines (pins.map (·.text)) (pins.flatMap (·.tokens)) := by
    rw [List.map_eq_flatMap]
    exact .flatMap fun declaration hmem ↦
      .single (PinDeclaration.spells_text (hpins declaration hmem))
  unfold pinLines
  split
  · rename_i hempty
    simpa [List.isEmpty_iff.1 hempty] using SpellsLines.nil
  · simpa using hlines.append spellsLines_blank

theorem spellsLines_setup {steps : List Step}
    (hsteps : ∀ step ∈ steps, ∀ symbol ∈ step.symbols, IsName symbol) :
    SpellsLines (setupLines steps)
      (functionTokens "setup" [.mark .closeParen] (stepTokens steps)) := by
  have hopening : Spells "void setup() \x7b"
      ([Token.keyword .void, .name "setup", .mark .openParen] ++ [Token.mark .closeParen] ++
        [Token.mark .openBrace]) := by
    decide +kernel
  have hall := (spellsLines_function hopening (spellsLines_steps hsteps).indent).append
    spellsLines_blank
  simpa [setupLines] using hall

namespace Function

def symbols (function : Function) : List String :=
  function.name :: function.body.flatMap (·.symbols)

theorem spellsLines {function : Function} (hsymbols : ∀ symbol ∈ function.symbols, IsName symbol) :
    SpellsLines function.lines function.tokens := by
  have hvoid : Spells "void " [.keyword .void] := by decide +kernel
  have hend : Spells "() \x7b" [.mark .openParen, .mark .closeParen, .mark .openBrace] := by
    decide +kernel
  have hname := spells_name (hsymbols function.name (by simp [symbols]))
  have hopening := (hvoid.append hname (.inl (by decide))).append hend (.inr (by decide))
  have hbody : SpellsLines (bodyLines function.body) (bodyTokens function.body) :=
    .flatMap fun statement hstatement ↦ Statement.spellsLines fun symbol h ↦
      hsymbols symbol (List.mem_cons_of_mem _ (List.mem_flatMap.2 ⟨statement, hstatement, h⟩))
  exact spellsLines_function hopening hbody.indent

end Function

theorem spellsLines_helper (blinks : Bool) :
    SpellsLines (helperLines blinks) (helperTokens blinks) := by
  cases blinks with
  | false => exact .nil
  | true => exact ⟨by decide +kernel, by decide +kernel⟩

theorem spellsLines_loop {entry : String} (hentry : IsName entry) :
    SpellsLines (loopLines entry)
      (functionTokens "loop" [.mark .closeParen] (stepTokens [.call entry])) := by
  have hopening : Spells "void loop() \x7b"
      ([Token.keyword .void, .name "loop", .mark .openParen] ++ [Token.mark .closeParen] ++
        [Token.mark .openBrace]) := by
    decide +kernel
  have hblanks : Spells "  " [] := by decide +kernel
  have hcall : Spells (Step.call entry).text (Step.call entry).tokens :=
    Step.spells_text (by simpa [Step.symbols] using hentry)
  have hline := SpellsLines.single (hblanks.append hcall (.inl (by decide)))
  exact spellsLines_function hopening hline

/-! ## Sketches -/

namespace Sketch

def titleLine (sketch : Sketch) : String :=
  "// File generated by statewire for " ++ sketch.title

/-- The lines after the comment with the title. -/
def codeLines (sketch : Sketch) : List String :=
  ["long time = 0;", "long debounce = " ++ toString sketch.debounce ++ ";", ""] ++
    sketch.faultPin.toList.flatMap (fun pin ↦
      ["#define " ++ faultPinName ++ " " ++ toString pin, ""]) ++
    pinLines sketch.pins ++ setupLines sketch.setup ++ functionLines sketch.functions ++
    helperLines sketch.blinks ++ loopLines sketch.entry

theorem lines_eq (sketch : Sketch) : sketch.lines = sketch.titleLine :: sketch.codeLines := by
  unfold lines headerLines codeLines titleLine
  cases sketch.faultPin <;> simp

/-- The symbols that a sketch takes from outside. -/
def symbols (sketch : Sketch) : List String :=
  sketch.pins.map (·.pin) ++ sketch.setup.flatMap (·.symbols) ++
    sketch.functions.flatMap (·.symbols) ++ [sketch.entry]

/-- A sketch whose symbols are names, and whose title is one line. -/
structure Legible (sketch : Sketch) : Prop where
  title : '\n' ∉ sketch.title.toList
  symbols : ∀ symbol ∈ sketch.symbols, IsName symbol

theorem Legible.spellsLines {sketch : Sketch} (hlegible : sketch.Legible) :
    SpellsLines sketch.codeLines sketch.tokens := by
  have hsymbols := hlegible.symbols
  simp only [Sketch.symbols, List.mem_append, List.mem_flatMap, List.mem_map,
    List.mem_singleton] at hsymbols
  have hpins := spellsLines_pins fun declaration h ↦
    hsymbols _ (.inl (.inl (.inl ⟨declaration, h, rfl⟩)))
  have hsetup := spellsLines_setup fun step hstep symbol h ↦
    hsymbols symbol (.inl (.inl (.inr ⟨step, hstep, h⟩)))
  have hfunctions : SpellsLines (functionLines sketch.functions)
      (sketch.functions.flatMap (·.tokens)) :=
    .flatMap fun function hfunction ↦ by
      simpa using (Function.spellsLines fun symbol h ↦
        hsymbols symbol (.inl (.inr ⟨function, hfunction, h⟩))).append spellsLines_blank
  have hloop := spellsLines_loop (hsymbols sketch.entry (.inr rfl))
  have hvariables := spellsLines_variables sketch.debounce
  have hdefines : SpellsLines
      (sketch.faultPin.toList.flatMap fun pin ↦
        ["#define " ++ faultPinName ++ " " ++ toString pin, ""])
      (sketch.faultPin.toList.flatMap fun pin ↦ [.define faultPinName pin]) :=
    .flatMap fun pin _ ↦ spellsLines_define pin
  have hall := (((((hvariables.append hdefines).append hpins).append hsetup).append hfunctions).append
    (spellsLines_helper sketch.blinks)).append hloop
  simpa [codeLines, tokens] using hall

/-- The text of a sketch, cut at its line feeds. -/
theorem Legible.splitOn_text {sketch : Sketch} (hlegible : sketch.Legible) :
    sketch.text.toList.splitOn '\n' = (sketch.lines ++ [""]).map String.toList := by
  have htext : sketch.text = "\n".intercalate (sketch.lines ++ [""]) := by
    rw [String.intercalate_append_of_ne_nil (by simp [lines_eq]) (by simp)]
    simp [text, Text.joinLines]
  have hlines : ∀ line ∈ sketch.lines ++ [""], '\n' ∉ line.toList := by
    intro line hline
    rw [lines_eq, List.cons_append, List.mem_cons, List.mem_append, List.mem_singleton] at hline
    obtain htitle | hcode | hblank := hline
    · have hcomment : '\n' ∉ "// File generated by statewire for ".toList := by decide +kernel
      subst htitle
      unfold titleLine
      simp only [String.toList_append, List.mem_append, hcomment, hlegible.title, or_self,
        not_false_eq_true]
    · exact hlegible.spellsLines.single_lines line hcode
    · rw [hblank]
      decide
  have hchars : ∀ chars ∈ (sketch.lines ++ [""]).map String.toList, '\n' ∉ chars := by
    intro chars hmem
    obtain ⟨line, hline, hchars⟩ := List.mem_map.1 hmem
    exact hchars ▸ hlines line hline
  rw [htext, String.toList_intercalate, show "\n".toList = ['\n'] from rfl,
    List.splitOn_intercalate '\n' hchars (by simp)]

theorem Legible.read_text {sketch : Sketch} (hlegible : sketch.Legible) :
    read sketch.text = some sketch.items := by
  have hcode := hlegible.spellsLines.append spellsLines_blank
  rw [Wiring.read, hlegible.splitOn_text, lines_eq, List.cons_append, List.map_cons, List.tail_cons,
    hcode.tokens_eq, List.append_nil, items_tokens]

end Sketch

end StateSketch
