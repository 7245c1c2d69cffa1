import StateSketch.Proofs.Defects
import StateSketch.Proofs.EntryPoints
import StateSketch.Proofs.SketchNames

/-!
# The lines of a report

A report puts a line feed between the entries of its diagnostics.  Its lines are therefore the
entries themselves exactly if no entry has a line feed of its own.  An entry tells names and a file,
and nothing else in it can bring a line feed along; but apart from the name of the program no name
is kept from having one.
-/

namespace StateSketch

namespace Text

/-- The parts of a text between its line feeds. -/
def linesOf (text : String) : List String :=
  (text.toList.splitOn '\n').map String.ofList

/-! ## Joined lines -/

theorem linesOf_of_not_mem {text : String} (htext : '\n' ∉ text.toList) :
    linesOf text = [text] := by
  rw [linesOf, List.splitOn_eq_singleton htext, List.map_singleton, String.ofList_toList]

theorem linesOf_append (first rest : String) :
    linesOf (first ++ "\n" ++ rest) = linesOf first ++ linesOf rest := by
  have hletters : (first ++ "\n" ++ rest).toList = first.toList ++ '\n' :: rest.toList := by
    simp
  rw [linesOf, hletters, List.splitOn_append_cons_self, List.map_append]
  rfl

/-- Every part of a joined text brings its own lines along. -/
theorem linesOf_joinLines {lines : List String} (hlines : lines ≠ []) :
    linesOf (joinLines lines) = lines.flatMap linesOf := by
  induction lines with
  | nil => exact absurd rfl hlines
  | cons line rest ih =>
    by_cases hrest : rest = []
    · subst hrest
      simp [joinLines]
    · calc
        linesOf (joinLines (line :: rest)) = linesOf (line ++ "\n" ++ joinLines rest) := by
          rw [joinLines, String.intercalate_cons_of_ne_nil hrest, joinLines]
        _ = linesOf line ++ rest.flatMap linesOf := by rw [linesOf_append, ih hrest]
        _ = (line :: rest).flatMap linesOf := List.flatMap_cons.symm

theorem length_splitOn_lineFeed (letters : List Char) :
    (letters.splitOn '\n').length = letters.count '\n' + 1 := by
  induction letters with
  | nil => rfl
  | cons c rest ih =>
    rw [List.splitOn_cons_eq_if_modifyHead, List.count_cons]
    split <;> simp [ih]

theorem length_linesOf (text : String) :
    (linesOf text).length = text.toList.count '\n' + 1 := by
  rw [linesOf, List.length_map, length_splitOn_lineFeed]

theorem length_flatMap_linesOf (lines : List String) :
    (lines.flatMap linesOf).length = lines.length + (lines.flatMap (·.toList)).count '\n' := by
  induction lines with
  | nil => rfl
  | cons line rest ih =>
    rw [List.flatMap_cons, List.length_append, length_linesOf, ih, List.length_cons,
      List.flatMap_cons, List.count_append]
    omega

/-- A joined text has the lines that it was joined from exactly if none of them has a line feed. -/
theorem linesOf_joinLines_eq_iff {lines : List String} (hlines : lines ≠ []) :
    linesOf (joinLines lines) = lines ↔ ∀ line ∈ lines, '\n' ∉ line.toList := by
  rw [linesOf_joinLines hlines]
  constructor
  · intro hsame line hline hfeed
    have hlength := length_flatMap_linesOf lines
    rw [hsame] at hlength
    have hcount : (lines.flatMap (·.toList)).count '\n' = 0 := by omega
    exact List.count_eq_zero.1 hcount (List.mem_flatMap_of_mem hline hfeed)
  · intro hsingle
    calc
      lines.flatMap linesOf = lines.flatMap fun line ↦ [line] :=
        List.flatMap_congr fun line hline ↦ linesOf_of_not_mem (hsingle line hline)
      _ = lines := List.flatMap_singleton' lines

end Text

/-! ## Entries -/

section

variable {opening between closing name other : String}

theorem lineFeed_mem_append {first rest : String} :
    '\n' ∈ (first ++ rest).toList ↔ '\n' ∈ first.toList ∨ '\n' ∈ rest.toList := by
  rw [String.toList_append, List.mem_append]

theorem lineFeed_mem_enclosed (hopening : '\n' ∉ opening.toList)
    (hclosing : '\n' ∉ closing.toList) :
    '\n' ∈ (opening ++ name ++ closing).toList ↔ '\n' ∈ name.toList := by
  simp only [lineFeed_mem_append, hopening, hclosing, false_or, or_false]

theorem lineFeed_mem_enclosed_twice (hopening : '\n' ∉ opening.toList)
    (hbetween : '\n' ∉ between.toList) (hclosing : '\n' ∉ closing.toList) :
    '\n' ∈ (opening ++ name ++ between ++ other ++ closing).toList ↔
      '\n' ∈ name.toList ∨ '\n' ∈ other.toList := by
  simp only [lineFeed_mem_append, hopening, hbetween, hclosing, false_or, or_false]

theorem lineFeed_mem_intercalate {separator : String} {parts : List String}
    (hseparator : '\n' ∉ separator.toList) :
    '\n' ∈ (separator.intercalate parts).toList ↔ ∃ part ∈ parts, '\n' ∈ part.toList := by
  induction parts with
  | nil => simp
  | cons part rest ih =>
    by_cases hrest : rest = []
    · subst hrest
      simp
    · rw [String.intercalate_cons_of_ne_nil hrest, lineFeed_mem_append, lineFeed_mem_append, ih]
      simp only [hseparator, or_false, List.mem_cons, exists_eq_or_imp]

theorem lineFeed_not_mem_toString_nat (n : Nat) : '\n' ∉ (toString n).toList :=
  fun hfeed ↦ absurd (Symbol.isDigit_of_mem_toString hfeed) (by decide)

theorem lineFeed_not_mem_toString_int (n : Int) : '\n' ∉ (toString n).toList := by
  cases n with
  | ofNat n => exact lineFeed_not_mem_toString_nat n
  | negSucc n =>
    change '\n' ∉ ("-" ++ toString (n + 1)).toList
    rw [lineFeed_mem_append, not_or]
    exact ⟨by decide, lineFeed_not_mem_toString_nat (n + 1)⟩

end

/-- What a message tells besides its fixed words. -/
def Problem.told : Problem → List String
  | .resourceNameUsed name => [name]
  | .portUsed port owner => [port, owner]
  | .undeclaredResource name => [name]
  | .undeclaredState name => [name]
  | .stateNameUsed name => [name]
  | .missingInitialState => []
  | .missingFaultPin => []
  | .faultPinUsed pin owner => [pin, owner]
  | .uncapitalizedName name => [name]
  | .severalInitialStates count chosen => [count, chosen]

/-- The fixed words of a message have no line feed. -/
theorem Problem.lineFeed_mem_message_iff (problem : Problem) :
    '\n' ∈ problem.message.toList ↔ ∃ text ∈ problem.told, '\n' ∈ text.toList := by
  cases problem with
  | resourceNameUsed name =>
    change '\n' ∈ ("name '" ++ name ++ "' was already used").toList ↔ _
    rw [lineFeed_mem_enclosed (by decide) (by decide)]
    simp [told]
  | portUsed port owner =>
    change '\n' ∈ ("port " ++ port ++ " was already used by '" ++ owner ++ "'").toList ↔ _
    rw [lineFeed_mem_enclosed_twice (by decide) (by decide) (by decide)]
    simp [told]
  | undeclaredResource name =>
    change '\n' ∈ ("undeclared '" ++ name ++ "'").toList ↔ _
    rw [lineFeed_mem_enclosed (by decide) (by decide)]
    simp [told]
  | undeclaredState name =>
    change '\n' ∈ ("undeclared state '" ++ name ++ "'").toList ↔ _
    rw [lineFeed_mem_enclosed (by decide) (by decide)]
    simp [told]
  | stateNameUsed name =>
    change '\n' ∈ ("duplicate state name: '" ++ name ++ "'").toList ↔ _
    rw [lineFeed_mem_enclosed (by decide) (by decide)]
    simp [told]
  | missingInitialState =>
    change '\n' ∈ "no initial state declared".toList ↔ _
    simp [told]
  | missingFaultPin =>
    change '\n' ∈ "a fault pin is required when fault states are defined".toList ↔ _
    simp [told]
  | faultPinUsed pin owner =>
    change '\n' ∈ ("port " ++ pin ++ " was already used by '" ++ owner ++ "'").toList ↔ _
    rw [lineFeed_mem_enclosed_twice (by decide) (by decide) (by decide)]
    simp [told]
  | uncapitalizedName name =>
    change '\n' ∈ ("application name '" ++ name ++ "' should start with a capital").toList ↔ _
    rw [lineFeed_mem_enclosed (by decide) (by decide)]
    simp [told]
  | severalInitialStates count chosen =>
    change '\n' ∈ ("" ++ count ++ " states are marked initial; '" ++ chosen ++
      "' (the last one) is used").toList ↔ _
    rw [lineFeed_mem_enclosed_twice (by decide) (by decide) (by decide)]
    simp [told]

namespace Diagnostic

/-- Neither the message nor the file has a line feed. -/
def IsPlain (diagnostic : Diagnostic) : Prop :=
  '\n' ∉ diagnostic.message.toList ∧
    ∀ file, diagnostic.origin.file = some file → '\n' ∉ file.toList

theorem lineFeed_mem_location_iff (diagnostic : Diagnostic) :
    '\n' ∈ diagnostic.location.toList ↔
      ∃ file, diagnostic.origin.file = some file ∧ '\n' ∈ file.toList := by
  have hfile : (∃ file ∈ (firstFile diagnostic.origin.file none).toList, '\n' ∈ file.toList) ↔
      ∃ file, diagnostic.origin.file = some file ∧ '\n' ∈ file.toList := by
    cases diagnostic.origin.file with
    | none => simp [firstFile]
    | some name =>
      by_cases hempty : name = ""
      · simp [firstFile, hempty]
      · simp [firstFile, hempty]
  have hline : ¬∃ line ∈ diagnostic.origin.line.toList.map toString, '\n' ∈ line.toList := by
    rintro ⟨_, hmem, hfeed⟩
    obtain ⟨line, -, rfl⟩ := List.mem_map.1 hmem
    exact lineFeed_not_mem_toString_int line hfeed
  rw [location, lineFeed_mem_intercalate (by decide), ← hfile]
  simp only [List.mem_append, or_and_right, exists_or, hline, or_false]

theorem lineFeed_not_mem_render_iff (diagnostic : Diagnostic) :
    '\n' ∉ diagnostic.render.toList ↔ diagnostic.IsPlain := by
  have htext : '\n' ∈ (if diagnostic.isError then diagnostic.message
      else "warning: " ++ diagnostic.message).toList ↔ '\n' ∈ diagnostic.message.toList := by
    cases diagnostic.isError with
    | true => rfl
    | false => simp
  have hrender : '\n' ∈ diagnostic.render.toList ↔
      '\n' ∈ diagnostic.location.toList ∨ '\n' ∈ diagnostic.message.toList := by
    rw [render]
    by_cases hempty : diagnostic.location = ""
    · simp [hempty, htext]
    · simp [hempty, htext]
  rw [hrender, lineFeed_mem_location_iff, IsPlain, not_or, and_comm]
  exact and_congr_right fun _ ↦ by simp only [not_exists, not_and]

end Diagnostic

/-- A message that tells plain texts is reported plainly at a plain place. -/
theorem Problem.isPlain_report {problem : Problem} {origin : Origin}
    (htold : ∀ text ∈ problem.told, '\n' ∉ text.toList)
    (hfile : ∀ file, origin.file = some file → '\n' ∉ file.toList) :
    (problem.report origin).IsPlain := by
  refine ⟨fun hfeed ↦ ?_, hfile⟩
  obtain ⟨text, hmem, htext⟩ := (lineFeed_mem_message_iff problem).1 hfeed
  exact htold text hmem htext

/-! ## Reports -/

namespace Report

theorem format_eq (report : Report) :
    report.format = Fault.unlessWide (report.all.any (·.hasWideLine)) report.render := by
  have hforM (diagnostics : List Diagnostic) :
      (diagnostics.forM fun diagnostic ↦ discard diagnostic.format) =
        Fault.unlessWide (diagnostics.any (·.hasWideLine)) () := by
    induction diagnostics with
    | nil => rfl
    | cons diagnostic rest ih =>
      rw [List.forM, Diagnostic.format_eq, List.any_cons]
      cases diagnostic.hasWideLine with
      | true => rfl
      | false => exact ih
  rw [format, hforM]
  cases report.all.any (·.hasWideLine) <;> rfl

theorem lineFeed_not_mem_errorCountLine (count : Nat) : '\n' ∉ (errorCountLine count).toList := by
  have hending : '\n' ∉ (if count > 1 then "s" else "").toList := by
    split <;> decide
  change '\n' ∉ ("**** " ++ toString count ++ " error" ++ (if count > 1 then "s" else "")).toList
  rw [lineFeed_mem_append, lineFeed_mem_enclosed (by decide) (by decide), not_or]
  exact ⟨lineFeed_not_mem_toString_nat count, hending⟩

/-- The line that counts the errors, if there are any. -/
def lastLine (report : Report) : List String :=
  if report.errors = [] then [] else [errorCountLine report.errors.length]

theorem lines_eq (report : Report) :
    report.lines = report.all.map (·.render) ++ report.lastLine := by
  unfold lines lastLine
  cases report.errors <;> rfl

theorem lines_ne_nil {report : Report} (hfound : report.all ≠ []) : report.lines ≠ [] := by
  simp [lines, hfound]

theorem lineFeed_not_mem_lastLine (report : Report) :
    ∀ line ∈ report.lastLine, '\n' ∉ line.toList := by
  unfold lastLine
  split
  · exact List.forall_mem_nil _
  · exact List.forall_mem_singleton.2 (lineFeed_not_mem_errorCountLine _)

/-- The lines of a report are its entries and its last line exactly if every entry is plain. -/
theorem linesOf_render_eq_iff {report : Report} (hfound : report.all ≠ []) :
    Text.linesOf report.render = report.all.map (·.render) ++ report.lastLine ↔
      ∀ diagnostic ∈ report.all, diagnostic.IsPlain := by
  rw [← lines_eq, render, Text.linesOf_joinLines_eq_iff (lines_ne_nil hfound), lines_eq,
    List.forall_mem_append, and_iff_left report.lineFeed_not_mem_lastLine, List.forall_mem_map]
  exact forall₂_congr fun diagnostic _ ↦ diagnostic.lineFeed_not_mem_render_iff

/-- Every line feed in an entry makes a line more. -/
theorem length_linesOf_render {report : Report} (hfound : report.all ≠ []) :
    (Text.linesOf report.render).length = report.all.length + report.lastLine.length +
      (report.all.flatMap (·.render.toList)).count '\n' := by
  have hlast : (report.lastLine.flatMap (·.toList)).count '\n' = 0 := by
    apply List.count_eq_zero.2
    intro hfeed
    obtain ⟨line, hline, hmem⟩ := List.mem_flatMap.1 hfeed
    exact report.lineFeed_not_mem_lastLine line hline hmem
  calc
    (Text.linesOf report.render).length =
        report.lines.length + (report.lines.flatMap (·.toList)).count '\n' := by
      rw [render, Text.linesOf_joinLines (lines_ne_nil hfound), Text.length_flatMap_linesOf]
    _ = report.all.length + report.lastLine.length +
        (report.all.flatMap (·.render.toList)).count '\n' := by
      rw [lines_eq, List.length_append, List.length_map, List.flatMap_append, List.count_append,
        hlast, Nat.add_zero, List.flatMap_map]

end Report

/-! ## Programs -/

def Origin.texts (origin : Origin) : List String :=
  origin.file.toList

/-- The names in an action and the file it is from. -/
def Action.texts (action : Action) : List String :=
  action.target :: action.origin.texts

def Transition.texts (transition : Transition) : List String :=
  transition.target :: (transition.trigger.sensors ++ transition.origin.texts)

def State.texts (state : State) : List String :=
  state.name :: (state.origin.texts ++ (state.actions.flatMap (·.texts) ++
    state.transitions.flatMap (·.texts)))

def Registry.texts (registry : Registry) : List String :=
  registry.names ++ (registry.resources.flatMap (·.origin.texts) ++
    registry.conflicts.flatMap (·.origin.texts))

namespace Registry

variable {registry : Registry} {conflict : Diagnostic}

/-- A conflict with resources declared before tells the name of one of them. -/
theorem exists_name_of_mem_conflictsOf {resource : Resource}
    (hconflict : conflict ∈ registry.conflictsOf resource)
    (hfeed : '\n' ∈ conflict.message.toList) : ∃ name ∈ registry.names, '\n' ∈ name.toList := by
  obtain ⟨hcontains, rfl⟩ | ⟨earlier, hearlier, -, rfl⟩ := mem_conflictsOf_iff.1 hconflict
  · obtain ⟨text, htold, htext⟩ := (Problem.lineFeed_mem_message_iff _).1 hfeed
    obtain rfl := List.mem_singleton.1 htold
    exact ⟨_, (contains_eq_true_iff _ _).1 hcontains, htext⟩
  · obtain ⟨text, htold, htext⟩ := (Problem.lineFeed_mem_message_iff _).1 hfeed
    simp only [Problem.told, List.mem_cons, List.not_mem_nil, or_false] at htold
    obtain rfl | rfl := htold
    · exact absurd htext (lineFeed_not_mem_toString_nat _)
    · exact ⟨_, List.mem_map_of_mem hearlier, htext⟩

theorem Reachable.exists_name_of_mem (hreachable : registry.Reachable)
    (hconflict : conflict ∈ registry.conflicts) (hfeed : '\n' ∈ conflict.message.toList) :
    ∃ name ∈ registry.names, '\n' ∈ name.toList := by
  induction hreachable with
  | empty => cases hconflict
  | @register registry before resource ih =>
    have hold : ∃ name ∈ registry.names, '\n' ∈ name.toList :=
      (mem_conflicts_register hconflict).elim ih
        fun hnew ↦ exists_name_of_mem_conflictsOf hnew hfeed
    obtain ⟨name, hname, htext⟩ := hold
    refine ⟨name, ?_, htext⟩
    rcases registry.names_register resource with hnames | hnames
    · exact hnames ▸ List.mem_append_left _ hname
    · exact hnames ▸ hname

end Registry

namespace Program

/-- The names and the files in a program, its own name apart. -/
def texts (program : Program) : List String :=
  program.file.toList ++ (program.initial.toList ++ (program.registry.texts ++
    program.states.flatMap (·.texts)))

/-- Neither a name nor a file in the program has a line feed. -/
def IsPlain (program : Program) : Prop :=
  ∀ text ∈ program.texts, '\n' ∉ text.toList

namespace IsPlain

variable {program : Program} (hplain : program.IsPlain)

include hplain

theorem file {file : String} (hfile : program.file = some file) : '\n' ∉ file.toList := by
  apply hplain
  simp [texts, hfile]

theorem registry {text : String} (htext : text ∈ program.registry.texts) : '\n' ∉ text.toList := by
  apply hplain
  simp [texts, htext]

theorem state {state : State} (hstate : state ∈ program.states) {text : String}
    (htext : text ∈ state.texts) : '\n' ∉ text.toList := by
  apply hplain
  have hstates : text ∈ program.states.flatMap (·.texts) := List.mem_flatMap_of_mem hstate htext
  simp [texts, hstates]

theorem action {state : State} (hstate : state ∈ program.states) {action : Action}
    (haction : action ∈ state.actions) {text : String} (htext : text ∈ action.texts) :
    '\n' ∉ text.toList := by
  apply hplain.state hstate
  have hactions : text ∈ state.actions.flatMap (·.texts) := List.mem_flatMap_of_mem haction htext
  simp [State.texts, hactions]

theorem transition {state : State} (hstate : state ∈ program.states) {transition : Transition}
    (htransition : transition ∈ state.transitions) {text : String}
    (htext : text ∈ transition.texts) : '\n' ∉ text.toList := by
  apply hplain.state hstate
  have htransitions : text ∈ state.transitions.flatMap (·.texts) :=
    List.mem_flatMap_of_mem htransition htext
  simp [State.texts, htransitions]

theorem place {origin : Origin} (horigin : ∀ text ∈ origin.texts, '\n' ∉ text.toList)
    {file : String} (hfile : (program.place origin).file = some file) : '\n' ∉ file.toList := by
  change firstFile origin.file program.file = some file at hfile
  cases hgiven : origin.file with
  | none =>
    rw [hgiven] at hfile
    exact hplain.file hfile
  | some name =>
    rw [hgiven, firstFile] at hfile
    split at hfile
    · exact hplain.file hfile
    · apply horigin
      rw [Origin.texts, hgiven, Option.some.inj hfile]
      exact List.mem_singleton_self file

/-- A problem is reported plainly at the place of a part of the program. -/
theorem report (problem : Problem) (origin : Origin)
    (htold : ∀ text ∈ problem.told, '\n' ∉ text.toList)
    (horigin : ∀ text ∈ origin.texts, '\n' ∉ text.toList) :
    (problem.report (program.place origin)).IsPlain :=
  problem.isPlain_report htold fun _ ↦ hplain.place horigin

end IsPlain

variable {program : Program}

/-- What is reported about a defect tells names and files of the program. -/
theorem HasDefect.isPlain {position : Position} {finding : Diagnostic}
    (hdefect : program.HasDefect position finding) (hreachable : program.registry.Reachable)
    (hplain : program.IsPlain) : finding.IsPlain := by
  cases hdefect with
  | @conflict index conflict recorded severe =>
    have hconflict : conflict ∈ program.registry.conflicts := List.mem_of_getElem? recorded
    have horigin (text : String) (htext : text ∈ conflict.origin.texts) : '\n' ∉ text.toList := by
      apply hplain.registry
      exact List.mem_append_right _ (List.mem_append_right _
        (List.mem_flatMap_of_mem hconflict htext))
    refine ⟨fun hfeed ↦ ?_, fun file ↦ hplain.place horigin⟩
    obtain ⟨name, hname, htext⟩ := hreachable.exists_name_of_mem hconflict hfeed
    exact hplain.registry (List.mem_append_left _ hname) htext
  | @action s a state action listed performed undeclared =>
    have haction (text : String) (htext : text ∈ action.texts) : '\n' ∉ text.toList :=
      hplain.action (List.mem_of_getElem? listed) (List.mem_of_getElem? performed) htext
    apply hplain.report (.undeclaredResource action.target) action.origin
    · exact List.forall_mem_singleton.2 (haction action.target List.mem_cons_self)
    · exact fun text htext ↦ haction text (List.mem_cons_of_mem _ htext)
  | @sensor s t r state transition sensor listed leaves read undeclared =>
    have htransition (text : String) (htext : text ∈ transition.texts) : '\n' ∉ text.toList :=
      hplain.transition (List.mem_of_getElem? listed) (List.mem_of_getElem? leaves) htext
    have hsensor : sensor ∈ transition.trigger.sensors := List.mem_of_getElem? read
    apply hplain.report (.undeclaredResource sensor) transition.origin
    · exact List.forall_mem_singleton.2
        (htransition sensor (List.mem_cons_of_mem _ (List.mem_append_left _ hsensor)))
    · exact fun text htext ↦
        htransition text (List.mem_cons_of_mem _ (List.mem_append_right _ htext))
  | @target s t state transition listed leaves undeclared =>
    have htransition (text : String) (htext : text ∈ transition.texts) : '\n' ∉ text.toList :=
      hplain.transition (List.mem_of_getElem? listed) (List.mem_of_getElem? leaves) htext
    apply hplain.report (.undeclaredState transition.target) transition.origin
    · exact List.forall_mem_singleton.2 (htransition transition.target List.mem_cons_self)
    · exact fun text htext ↦
        htransition text (List.mem_cons_of_mem _ (List.mem_append_right _ htext))
  | @repetition s later state other listed after again same =>
    have hstate (text : String) (htext : text ∈ state.texts) : '\n' ∉ text.toList :=
      hplain.state (List.mem_of_getElem? listed) htext
    apply hplain.report (.stateNameUsed state.name) state.origin
    · exact List.forall_mem_singleton.2 (hstate state.name List.mem_cons_self)
    · exact fun text htext ↦ hstate text (List.mem_cons_of_mem _ (List.mem_append_left _ htext))
  | initial missing =>
    exact Problem.missingInitialState.isPlain_report (List.forall_mem_nil _) fun _ ↦ hplain.file
  | @faultPin s state missing listed fault first =>
    apply hplain.report .missingFaultPin state.origin (List.forall_mem_nil _)
    exact fun text htext ↦ hplain.state (List.mem_of_getElem? listed)
      (List.mem_cons_of_mem _ (List.mem_append_left _ htext))
  | @faultPort r pin resource given declared taken first =>
    have hresource : resource ∈ program.registry.resources := List.mem_of_getElem? declared
    have hname : '\n' ∉ resource.name.toList :=
      hplain.registry (List.mem_append_left _ (List.mem_map_of_mem hresource))
    apply hplain.report (.faultPinUsed (toString pin) resource.name) resource.origin
    · exact List.forall_mem_cons.2
        ⟨lineFeed_not_mem_toString_nat pin, List.forall_mem_singleton.2 hname⟩
    · intro text htext
      apply hplain.registry
      exact List.mem_append_right _ (List.mem_append_left _
        (List.mem_flatMap_of_mem hresource htext))

theorem isPlain_of_mem_nameFindings (hconstructed : program.IsConstructed)
    (hplain : program.IsPlain) {finding : Diagnostic} (hfinding : finding ∈ program.nameFindings) :
    finding.IsPlain := by
  unfold nameFindings at hfinding
  split at hfinding
  · cases hfinding
  · rw [List.mem_singleton.1 hfinding]
    apply Problem.isPlain_report
    · exact List.forall_mem_singleton.2 hconstructed.name_single_line
    · exact fun _ ↦ hplain.file

theorem isPlain_of_mem_markingFindings (hplain : program.IsPlain) {finding : Diagnostic}
    (hfinding : finding ∈ program.markingFindings) : finding.IsPlain := by
  have hchosen : '\n' ∉ (program.initial.getD "None").toList := by
    cases hinitial : program.initial with
    | none => decide
    | some name =>
      apply hplain
      simp [texts, hinitial]
  unfold markingFindings at hfinding
  split at hfinding
  · rw [List.mem_singleton.1 hfinding]
    apply Problem.isPlain_report
    · exact List.forall_mem_cons.2
        ⟨lineFeed_not_mem_toString_int _, List.forall_mem_singleton.2 hchosen⟩
    · exact fun _ ↦ hplain.file
  · cases hfinding

/-- All that is reported about a plain program is plain. -/
theorem IsPlain.isPlain_of_mem (hplain : program.IsPlain) (hconstructed : program.IsConstructed)
    (hreachable : program.registry.Reachable) {finding : Diagnostic}
    (hfinding : finding ∈ (Report.ofDiagnostics program.findings).all) : finding.IsPlain := by
  rcases List.mem_append.1 hfinding with herror | hwarning
  · rw [← map_snd_defects] at herror
    obtain ⟨entry, hentry, rfl⟩ := List.mem_map.1 herror
    exact (hasDefect_of_mem_defects hentry).isPlain hreachable hplain
  · rw [warnings_ofDiagnostics_findings_of_reachable hreachable] at hwarning
    exact (List.mem_append.1 hwarning).elim (isPlain_of_mem_nameFindings hconstructed hplain)
      (isPlain_of_mem_markingFindings hplain)

end Program

/-! ## Refusals -/

/-- The lines with which a program with errors is refused. -/
def Report.refusalLines (report : Report) : List String :=
  s!"{report.errors.length} error(s)." ::
    report.errors.map fun error ↦ error.code.word ++ " @ " ++ error.render

theorem DiagnosticCode.lineFeed_not_mem_word (code : DiagnosticCode) : '\n' ∉ code.word.toList := by
  cases code <;> decide

/-- The lines of a refusal are the number of errors and the entry of each exactly if every entry is
plain. -/
theorem Report.linesOf_refusal_eq_iff (report : Report) :
    Text.linesOf (Fault.rejected report.refusalLines).message = report.refusalLines ↔
      ∀ error ∈ report.errors, error.IsPlain := by
  have hcount : '\n' ∉ (s!"{report.errors.length} error(s).").toList := by
    change '\n' ∉ ("" ++ toString report.errors.length ++ " error(s).").toList
    rw [lineFeed_mem_enclosed (by decide) (by decide)]
    exact lineFeed_not_mem_toString_nat _
  have hentry (error : Diagnostic) :
      '\n' ∉ (error.code.word ++ " @ " ++ error.render).toList ↔ error.IsPlain := by
    rw [← error.lineFeed_not_mem_render_iff, lineFeed_mem_append, lineFeed_mem_append]
    simp [error.code.lineFeed_not_mem_word]
  have hmessage : (Fault.rejected report.refusalLines).message =
      Text.joinLines report.refusalLines := rfl
  rw [hmessage, Text.linesOf_joinLines_eq_iff (by simp [refusalLines]), refusalLines,
    List.forall_mem_cons, and_iff_right hcount, List.forall_mem_map]
  exact forall₂_congr fun error _ ↦ hentry error

namespace Program

variable {program : Program}

/-- A program with errors is refused with them, unless the line of one of them cannot be told. -/
theorem generate_of_errors {report : Report} (hreport : program.validate = .ok report)
    (herrors : report.errors ≠ []) (debounce : Nat) :
    (program.generate debounce).1 =
      .error (if report.errors.any (·.hasWideLine) then .numeralTooWide
        else .rejected report.refusalLines) := by
  obtain ⟨hpin, hmarkings, rfl⟩ := (validate_eq_ok_iff _ _).1 hreport
  have hnonempty : (Report.ofDiagnostics program.findings).errors.isEmpty = false :=
    List.isEmpty_eq_false_iff.2 herrors
  rw [generate_eq, hasWideGeneration, hpin, hmarkings, hnonempty, Emission.sourceOrErrors,
    emissionOf, hnonempty]
  cases (Report.ofDiagnostics program.findings).errors.any (·.hasWideLine) <;> rfl

/-- The lines of a report are the entries of its diagnostics, errors first, and the number of errors
exactly if no message and no file in it has a line feed; every line feed in an entry makes a line
more.  The lines of the message that refuses a program with errors are made up in the same way.  In
a program made by calls, a line feed in an entry is one of a name or a file. -/
theorem report_lines_iff {report : Report} (hreport : program.validate = .ok report)
    (debounce : Nat) :
    (report.format = Fault.unlessWide (report.all.any (·.hasWideLine)) report.render ∧
      report.all.mapM (·.format) =
        Fault.unlessWide (report.all.any (·.hasWideLine)) (report.all.map (·.render))) ∧
    (report.all = [] → report.render = "") ∧
    (report.all ≠ [] →
      (Text.linesOf report.render = report.all.map (·.render) ++ report.lastLine ↔
        ∀ diagnostic ∈ report.all, diagnostic.IsPlain) ∧
      (Text.linesOf report.render).length = report.all.length + report.lastLine.length +
        (report.all.flatMap (·.render.toList)).count '\n') ∧
    (report.errors ≠ [] →
      (program.generate debounce).1 =
        .error (if report.errors.any (·.hasWideLine) then .numeralTooWide
          else .rejected report.refusalLines) ∧
      (Text.linesOf (Fault.rejected report.refusalLines).message = report.refusalLines ↔
        ∀ error ∈ report.errors, error.IsPlain)) ∧
    (program.IsConstructed → program.registry.Reachable → program.IsPlain →
      ∀ diagnostic ∈ report.all, diagnostic.IsPlain) := by
  have hentries : report.all.mapM (·.format) =
      Fault.unlessWide (report.all.any (·.hasWideLine)) (report.all.map (·.render)) :=
    Fault.mapM_unlessWide fun diagnostic _ ↦ diagnostic.format_eq
  refine ⟨⟨report.format_eq, hentries⟩, fun hnone ↦ ?_, fun hfound ↦ ?_, fun herrors ↦ ?_,
    fun hconstructed hreachable hplain diagnostic hdiagnostic ↦ ?_⟩
  · obtain ⟨herrors, -⟩ := List.append_eq_nil_iff.1 hnone
    rw [Report.render, Report.lines_eq, hnone, Report.lastLine, if_pos herrors]
    rfl
  · exact ⟨Report.linesOf_render_eq_iff hfound, Report.length_linesOf_render hfound⟩
  · exact ⟨generate_of_errors hreport herrors debounce, report.linesOf_refusal_eq_iff⟩
  · obtain ⟨-, -, rfl⟩ := (validate_eq_ok_iff _ _).1 hreport
    exact hplain.isPlain_of_mem hconstructed hreachable hdiagnostic

end Program

/-- The program with many defects under a name that is advised against. -/
def uncapitalizedDerelict : Program :=
  { derelict with name := "derelict", file := some "yard", initialMarkings := 1 }

/-- A program whose only state is left for one that was never declared. -/
def strayTurn : Program where
  name := "Turn"
  states := [
    { name := "idle"
      body := .normal [] [{ trigger := .delay 10, target := "left\nright" }] }]
  initial := some "idle"
  initialMarkings := 1

namespace Program

theorem uncapitalizedDerelict_lines :
    ∃ report, uncapitalizedDerelict.IsConstructed ∧
      uncapitalizedDerelict.registry.Reachable ∧ uncapitalizedDerelict.validate = .ok report ∧
      report.errors.length = 9 ∧ report.warnings.length = 1 ∧
      Text.linesOf report.render = report.all.map (·.render) ++ [errorCountLine 9] ∧
      (uncapitalizedDerelict.generate 200).1 = .error (.rejected report.refusalLines) ∧
      Text.linesOf (Fault.rejected report.refusalLines).message = report.refusalLines := by
  have hconstructed : uncapitalizedDerelict.IsConstructed :=
    ⟨.text "derelict", .nothing, 1, by decide +kernel⟩
  have hreachable : uncapitalizedDerelict.registry.Reachable := by
    dsimp only [uncapitalizedDerelict, derelict]
    exact .register (.register .empty _) _
  have hplain : uncapitalizedDerelict.IsPlain := by
    unfold IsPlain
    decide +kernel
  have hreport : uncapitalizedDerelict.validate =
      .ok (Report.ofDiagnostics uncapitalizedDerelict.findings) := by
    decide +kernel
  have herrors : (Report.ofDiagnostics uncapitalizedDerelict.findings).errors.length = 9 := by
    decide +kernel
  have hnarrow : (Report.ofDiagnostics uncapitalizedDerelict.findings).errors.any
      (·.hasWideLine) = false := by
    decide +kernel
  have hsome : (Report.ofDiagnostics uncapitalizedDerelict.findings).errors ≠ [] :=
    List.ne_nil_of_length_pos (by omega)
  obtain ⟨-, -, hfound, hrefused, hmade⟩ := report_lines_iff hreport 200
  have hentries := hmade hconstructed hreachable hplain
  have hlines := (hfound (List.append_ne_nil_of_left_ne_nil hsome _)).1.2 hentries
  obtain ⟨hgenerated, hrefusal⟩ := hrefused hsome
  rw [Report.lastLine, if_neg hsome, herrors] at hlines
  rw [hnarrow] at hgenerated
  exact ⟨_, hconstructed, hreachable, hreport, herrors, by decide +kernel, hlines, hgenerated,
    hrefusal.2 fun error herror ↦ hentries error (List.mem_append_left _ herror)⟩

/-- The name of the target is told with its line feed, so that the one error takes two lines. -/
theorem strayTurn_entry_in_two_lines :
    strayTurn.IsConstructed ∧
      ∃ report, strayTurn.validate = .ok report ∧
        report.errors.length = 1 ∧ report.warnings = [] ∧
        Text.linesOf report.render =
          ["undeclared state 'left", "right'", "**** 1 error"] ∧
        (strayTurn.generate 200).1 = .error (.rejected report.refusalLines) ∧
        Text.linesOf (Fault.rejected report.refusalLines).message =
          ["1 error(s).", "UNDECLARED_STATE @ undeclared state 'left", "right'"] := by
  refine ⟨⟨.text "Turn", .nothing, 1, by decide +kernel⟩,
    Report.ofDiagnostics strayTurn.findings, ?_⟩
  decide +kernel

end Program

end StateSketch
