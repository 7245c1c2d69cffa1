import StateSketch.Proofs.Bookkeeping
import StateSketch.Proofs.CallSites

/-!
# What is open in the studio

Applications and blocks may be opened and closed in any order, also while calls are refused.  There
is never more than one of each open.  A call changes the program of one application at most: of the
open one, or of the one that was open when the block was made.  A block holds what was written to it
while it was open, and nothing else.
-/

namespace StateSketch

theorem eq_error_of_map {α β : Type} {f : α → β} {result : Except Fault α} {fault : Fault}
    (hrefused : result.map f = .error fault) : result = .error fault := by
  cases result with
  | error other =>
    obtain rfl : other = fault := Except.error.inj hrefused
    rfl
  | ok value => cases hrefused

/-! ## What a call can do -/

namespace StudioCall

/-- Whether a call is refused, and the studio after it. -/
def run (studio : Studio) : StudioCall → Except Fault Unit × Studio
  | .newApp name faultPin site => (studio.newApp name faultPin site).map discard id
  | .enterApp app => studio.enterApp app
  | .exitApp => studio.exitApp
  | .newScope name initial site => (studio.newScope name initial site).map discard id
  | .enterScope scope => studio.enterScope scope
  | .exitScope scope raised => studio.exitScope scope raised
  | .declare kind name port site => (studio.declare kind name port site).map discard id
  | .faultState name blinks site => (studio.faultState name blinks site).map discard id
  | .write target level site => (studio.write target level site).map discard id
  | .when guard target site => (studio.when guard target site).map discard id
  | .after milliseconds target site => (studio.after milliseconds target site).map discard id

theorem snd_run (studio : Studio) (call : StudioCall) :
    (call.run studio).2 = call.perform studio := by
  cases call <;> rfl

/-- The outcomes of a call.  It may be refused at once; otherwise it does what the rest of it says,
which a builder may still refuse. -/
inductive Effect (studio : Studio) : StudioCall → Except Fault Unit × Studio → Prop where
  | refused (call : StudioCall) (fault : Fault) : Effect studio call (.error fault, studio)
  | newApp {name faultPin : Argument} {site : CallSite} (builder : Builder) :
    Effect studio (.newApp name faultPin site)
      (.ok (), { studio with apps := studio.apps ++ [builder] })
  | enterApp {app : Nat} :
    Effect studio (.enterApp app) (.ok (), { studio with openApps := [app] })
  | exitApp {app : Nat} {rest : List Nat} (opened : studio.openApps = app :: rest) :
    Effect studio .exitApp (.ok (), { studio with openApps := rest, openScopes := [] })
  | newScope {name : Argument} {initial : Bool} {site : CallSite} {app : Nat} {rest : List Nat}
    (opened : studio.openApps = app :: rest) :
    Effect studio (.newScope name initial site)
      (.ok (), { studio with scopes := studio.scopes ++
        [{ app := app, name := name, initial := initial, site := site }] })
  | enterScope {scope : Nat} :
    Effect studio (.enterScope scope) (.ok (), { studio with openScopes := [scope] })
  | abandon {scope top : Nat} {rest : List Nat} (opened : studio.openScopes = top :: rest) :
    Effect studio (.exitScope scope true) (.ok (), { studio with openScopes := rest })
  | finish {scope top : Nat} {rest : List Nat} (opened : studio.openScopes = top :: rest) :
    Effect studio (.exitScope scope false) ({ studio with openScopes := rest }.finishScope scope)
  | declare {kind : ResourceKind} {name port : Argument} {site : CallSite} {app : Nat}
    {rest : List Nat} (opened : studio.openApps = app :: rest) :
    Effect studio (.declare kind name port site)
      ((studio.onApp app (·.registerResource port (.ok kind) name site.origin)).map discard id)
  | faultState {name blinks : Argument} {site : CallSite} {app : Nat} {rest : List Nat}
    (opened : studio.openApps = app :: rest) :
    Effect studio (.faultState name blinks site)
      ((studio.onApp app (·.makeFaultState name blinks site.origin)).map discard id)
  | write {target level : Argument} {site : CallSite} {top : Nat} {rest : List Nat}
    (name : Argument) (opened : studio.openScopes = top :: rest)
    (result : studio.write target level site =
      studio.inScope top (·.makeAction name level site.origin) Studio.addAction) :
    Effect studio (.write target level site) ((studio.write target level site).map discard id)
  | when {guard target : Argument} {site : CallSite} {top : Nat} {rest : List Nat}
    (opened : studio.openScopes = top :: rest)
    (result : studio.when guard target site =
      studio.inScope top (·.makeTransition guard target site.origin) Studio.addTransition) :
    Effect studio (.when guard target site) ((studio.when guard target site).map discard id)
  | after {milliseconds target : Argument} {site : CallSite} {top : Nat} {rest : List Nat}
    (opened : studio.openScopes = top :: rest)
    (result : studio.after milliseconds target site =
      studio.inScope top (·.makeTransition milliseconds target site.origin)
        Studio.addTransition) :
    Effect studio (.after milliseconds target site)
      ((studio.after milliseconds target site).map discard id)

theorem effect_run (studio : Studio) (call : StudioCall) :
    Effect studio call (call.run studio) := by
  cases call with
  | newApp name faultPin site =>
    dsimp only [run, Studio.newApp]
    split
    · exact .refused _ _
    · exact .newApp _
  | enterApp app =>
    dsimp only [run, Studio.enterApp]
    split
    · exact .enterApp
    · exact .refused _ _
  | exitApp =>
    dsimp only [run, Studio.exitApp]
    split
    · exact .refused _ _
    · exact .exitApp ‹_›
  | newScope name initial site =>
    dsimp only [run, Studio.newScope]
    split
    · exact .refused _ _
    · exact .newScope ‹_›
  | enterScope scope =>
    dsimp only [run, Studio.enterScope]
    split
    · exact .enterScope
    · exact .refused _ _
  | exitScope scope raised =>
    dsimp only [run, Studio.exitScope]
    split
    · exact .refused _ _
    · cases raised with
      | true => exact .abandon ‹_›
      | false => exact .finish ‹_›
  | declare kind name port site =>
    dsimp only [run, Studio.declare]
    split
    · exact .refused _ _
    · exact .declare ‹_›
  | faultState name blinks site =>
    dsimp only [run, Studio.faultState]
    split
    · exact .refused _ _
    · split
      · exact .refused _ _
      · exact .faultState ‹_›
  | write target level site =>
    have hwrite := Studio.write.eq_def studio target level site
    dsimp only [run]
    split at hwrite
    · rw [hwrite]
      exact .refused _ _
    · split at hwrite
      · rw [hwrite]
        exact .refused _ _
      · exact .write _ ‹_› hwrite
  | when guard target site =>
    have hwhen := Studio.when.eq_def studio guard target site
    dsimp only [run]
    split at hwhen
    · rw [hwhen]
      exact .refused _ _
    · split at hwhen
      · exact .when ‹_› hwhen
      · rw [hwhen]
        exact .refused _ _
  | after milliseconds target site =>
    have hafter := Studio.after.eq_def studio milliseconds target site
    dsimp only [run]
    split at hafter
    · rw [hafter]
      exact .refused _ _
    · split at hafter
      · exact .after ‹_› hafter
      · rw [hafter]
        exact .refused _ _

end StudioCall

/-! ## Programs that a call leaves alone -/

namespace Studio

variable {α : Type} {studio : Studio} {app other index : Nat} {scope : Scope}
  {call : Builder → Except Fault α × Builder} {add : Scope → α → Scope}

/-- The applications in which the blocks were made. -/
def makers (studio : Studio) : List Nat :=
  studio.scopes.map (·.app)

theorem makers_of_scope (hscope : studio.scopes[index]? = some scope) :
    studio.makers[index]? = some scope.app := by
  rw [makers, List.getElem?_map, hscope]
  rfl

theorem apps_onApp_of_ne (hother : app ≠ other) :
    (studio.onApp app call).2.apps[other]? = studio.apps[other]? := by
  unfold onApp
  cases studio.apps[app]? with
  | none => rfl
  | some builder => exact List.getElem?_set_ne hother

theorem inScope_of_none (hscope : studio.scopes[index]? = none) :
    studio.inScope index call add = (.error .staleHandle, studio) := by
  unfold inScope
  rw [hscope]

/-- What comes of a part of a block is what comes of the builder's call. -/
theorem fst_inScope (hscope : studio.scopes[index]? = some scope) :
    (studio.inScope index call add).1 = (studio.onApp scope.app call).1 := by
  unfold inScope
  rw [hscope]
  dsimp only
  cases (studio.onApp scope.app call).1 <;> rfl

theorem apps_inScope (hscope : studio.scopes[index]? = some scope) :
    (studio.inScope index call add).2.apps = (studio.onApp scope.app call).2.apps := by
  unfold inScope
  rw [hscope]
  dsimp only
  cases (studio.onApp scope.app call).1 <;> rfl

theorem apps_inScope_of_ne (hother : studio.makers[index]? ≠ some other) :
    (studio.inScope index call add).2.apps[other]? = studio.apps[other]? := by
  cases hscope : studio.scopes[index]? with
  | none => rw [inScope_of_none hscope]
  | some scope =>
    rw [makers_of_scope hscope] at hother
    rw [apps_inScope hscope]
    exact apps_onApp_of_ne fun hsame ↦ hother (congrArg some hsame)

theorem finishScope_of_some (hscope : studio.scopes[index]? = some scope) :
    studio.finishScope index =
      (studio.inScope index
        (·.makeState scope.name (.ok (scope.actions.map .action))
          (.ok (scope.transitions.map .transition)) scope.initial scope.site.origin)
        fun scope state ↦ { scope with state := some state }).map discard id := by
  unfold finishScope inScope
  rw [hscope]
  dsimp only
  cases (studio.onApp scope.app _).1 <;> rfl

theorem finishScope_of_none (hscope : studio.scopes[index]? = none) :
    studio.finishScope index = (.error .staleHandle, studio) := by
  unfold finishScope
  rw [hscope]

theorem apps_finishScope_of_ne (hother : studio.makers[index]? ≠ some other) :
    (studio.finishScope index).2.apps[other]? = studio.apps[other]? := by
  cases hscope : studio.scopes[index]? with
  | none => rw [finishScope_of_none hscope]
  | some scope =>
    rw [finishScope_of_some hscope]
    exact apps_inScope_of_ne hother

end Studio

namespace StudioCall

/-- The application that a call may change, given the applications in which the blocks were made:
the open one, or that of the block which the call adds to or closes. -/
def addressee? (makers : List Nat) (studio : Studio) : StudioCall → Option Nat
  | .declare _ _ _ _ => studio.openApps.head?
  | .faultState _ _ _ => studio.openApps.head?
  | .write _ _ _ => studio.openScopes.head?.bind (makers[·]?)
  | .when _ _ _ => studio.openScopes.head?.bind (makers[·]?)
  | .after _ _ _ => studio.openScopes.head?.bind (makers[·]?)
  | .exitScope scope _ => makers[scope]?
  | _ => none

variable {studio : Studio} {call : StudioCall}

/-- A part that is added to the open block is for the application in which the block was made. -/
theorem makers_ne_of_open {top other : Nat} {rest : List Nat}
    (hopen : studio.openScopes = top :: rest)
    (hother : studio.openScopes.head?.bind (studio.makers[·]?) ≠ some other) :
    studio.makers[top]? ≠ some other := by
  rw [hopen] at hother
  exact hother

/-- All programs but the one that a call may change stay as they are. -/
theorem apps_run_of_ne {other : Nat} {builder : Builder}
    (hbuilder : studio.apps[other]? = some builder)
    (hother : call.addressee? studio.makers studio ≠ some other) :
    (call.run studio).2.apps[other]? = some builder := by
  have heffect := effect_run studio call
  generalize call.run studio = outcome at heffect ⊢
  cases heffect with
  | newApp newcomer =>
    rw [← hbuilder]
    exact List.getElem?_append_left (List.getElem?_eq_some_iff.1 hbuilder).1
  | finish opened =>
    refine (Studio.apps_finishScope_of_ne ?_).trans hbuilder
    exact hother
  | declare opened =>
    refine (Studio.apps_onApp_of_ne ?_).trans hbuilder
    rintro rfl
    exact hother (congrArg List.head? opened)
  | faultState opened =>
    refine (Studio.apps_onApp_of_ne ?_).trans hbuilder
    rintro rfl
    exact hother (congrArg List.head? opened)
  | write name opened result =>
    rw [result]
    exact (Studio.apps_inScope_of_ne (makers_ne_of_open opened hother)).trans hbuilder
  | when opened result =>
    rw [result]
    exact (Studio.apps_inScope_of_ne (makers_ne_of_open opened hother)).trans hbuilder
  | after opened result =>
    rw [result]
    exact (Studio.apps_inScope_of_ne (makers_ne_of_open opened hother)).trans hbuilder
  | _ => exact hbuilder

end StudioCall

/-! ## What is open -/

namespace Studio

variable {α : Type} (studio : Studio)

theorem opened_onApp (app : Nat) (call : Builder → Except Fault α × Builder) :
    (studio.onApp app call).2.openApps = studio.openApps ∧
      (studio.onApp app call).2.openScopes = studio.openScopes := by
  unfold onApp
  cases studio.apps[app]? <;> exact ⟨rfl, rfl⟩

theorem opened_inScope (index : Nat) (call : Builder → Except Fault α × Builder)
    (add : Scope → α → Scope) :
    (studio.inScope index call add).2.openApps = studio.openApps ∧
      (studio.inScope index call add).2.openScopes = studio.openScopes := by
  unfold inScope
  cases studio.scopes[index]? with
  | none => exact ⟨rfl, rfl⟩
  | some scope =>
    dsimp only
    cases (studio.onApp scope.app call).1 <;> exact studio.opened_onApp scope.app call

theorem opened_finishScope (index : Nat) :
    (studio.finishScope index).2.openApps = studio.openApps ∧
      (studio.finishScope index).2.openScopes = studio.openScopes := by
  cases hscope : studio.scopes[index]? with
  | none =>
    rw [finishScope_of_none hscope]
    exact ⟨rfl, rfl⟩
  | some scope =>
    rw [finishScope_of_some hscope]
    exact studio.opened_inScope index _ _

end Studio

/-- At most one application and at most one block are open. -/
structure Studio.AtMostOneOpen (studio : Studio) : Prop where
  apps : studio.openApps.length ≤ 1
  scopes : studio.openScopes.length ≤ 1

theorem Studio.AtMostOneOpen.congr {before after : Studio} (hopen : before.AtMostOneOpen)
    (hsame : after.openApps = before.openApps ∧ after.openScopes = before.openScopes) :
    after.AtMostOneOpen := by
  constructor
  · rw [hsame.1]
    exact hopen.apps
  · rw [hsame.2]
    exact hopen.scopes

/-- Only entering opens something, and it opens nothing beside what is open. -/
theorem StudioCall.atMostOneOpen_run {studio : Studio} (hopen : studio.AtMostOneOpen)
    (call : StudioCall) : (call.run studio).2.AtMostOneOpen := by
  have heffect := effect_run studio call
  generalize call.run studio = outcome at heffect ⊢
  have hrest : ∀ {top : Nat} {rest opened : List Nat}, opened = top :: rest → opened.length ≤ 1 →
      rest.length ≤ 1 := by
    intro top rest opened hopened hlength
    rw [hopened, List.length_cons] at hlength
    omega
  cases heffect with
  | enterApp => exact ⟨Nat.le_refl 1, hopen.scopes⟩
  | exitApp opened => exact ⟨hrest opened hopen.apps, Nat.zero_le 1⟩
  | enterScope => exact ⟨hopen.apps, Nat.le_refl 1⟩
  | abandon opened => exact ⟨hopen.apps, hrest opened hopen.scopes⟩
  | finish opened =>
    refine Studio.AtMostOneOpen.congr ?_ (Studio.opened_finishScope _ _)
    exact ⟨hopen.apps, hrest opened hopen.scopes⟩
  | declare opened => exact hopen.congr (studio.opened_onApp _ _)
  | faultState opened => exact hopen.congr (studio.opened_onApp _ _)
  | write name opened result =>
    rw [result]
    exact hopen.congr (studio.opened_inScope _ _ _)
  | when opened result =>
    rw [result]
    exact hopen.congr (studio.opened_inScope _ _ _)
  | after opened result =>
    rw [result]
    exact hopen.congr (studio.opened_inScope _ _ _)
  | _ => exact ⟨hopen.apps, hopen.scopes⟩

/-! ## What blocks hold -/

namespace StudioCall

/-- The application in which a block is made. -/
def maker? : Studio × StudioCall → Option Nat
  | (studio, .newScope _ _ _) => studio.openApps.head?
  | _ => none

/-- The action that is written while a block is open. -/
def written? (index : Nat) : Studio × StudioCall → Option Action
  | (studio, .write target level site) =>
    if index ∈ studio.openScopes then (studio.write target level site).1.toOption else none
  | _ => none

/-- The transition that is added while a block is open. -/
def left? (index : Nat) : Studio × StudioCall → Option Transition
  | (studio, .when guard target site) =>
    if index ∈ studio.openScopes then (studio.when guard target site).1.toOption else none
  | (studio, .after milliseconds target site) =>
    if index ∈ studio.openScopes then (studio.after milliseconds target site).1.toOption else none
  | _ => none

/-- A call that is refused adds nothing to any block. -/
theorem silent_of_refused {studio : Studio} {call : StudioCall} {fault : Fault}
    (hrefused : (call.run studio).1 = .error fault) (index : Nat) :
    maker? (studio, call) = none ∧ written? index (studio, call) = none ∧
      left? index (studio, call) = none := by
  cases call with
  | newScope name initial site =>
    dsimp only [run, Studio.newScope] at hrefused
    split at hrefused
    · rename_i hopen
      exact ⟨congrArg List.head? hopen, rfl, rfl⟩
    · cases hrefused
  | write target level site =>
    have hresult : (studio.write target level site).1 = .error fault := eq_error_of_map hrefused
    dsimp only [maker?, written?, left?]
    rw [hresult]
    exact ⟨rfl, ite_self none, rfl⟩
  | when guard target site =>
    have hresult : (studio.when guard target site).1 = .error fault := eq_error_of_map hrefused
    dsimp only [maker?, written?, left?]
    rw [hresult]
    exact ⟨rfl, rfl, ite_self none⟩
  | after milliseconds target site =>
    have hresult : (studio.after milliseconds target site).1 = .error fault := eq_error_of_map hrefused
    dsimp only [maker?, written?, left?]
    rw [hresult]
    exact ⟨rfl, rfl, ite_self none⟩
  | _ => exact ⟨rfl, rfl, rfl⟩

end StudioCall

/-- A list of each block to which actions and transitions may contribute. -/
structure Scope.Tally {β : Type} (list : Scope → List β) (ofAction : Action → Option β)
    (ofTransition : Transition → Option β) : Prop where
  fresh : ∀ app name initial site,
    list { app := app, name := name, initial := initial, site := site } = []
  action : ∀ scope action,
    list (Studio.addAction scope action) = list scope ++ (ofAction action).toList
  transition : ∀ scope transition,
    list (Studio.addTransition scope transition) = list scope ++ (ofTransition transition).toList
  state : ∀ (scope : Scope) (state : Option State), list { scope with state := state } = list scope

namespace Studio

variable {α β : Type} {studio : Studio} {list : Scope → List β} {ofAction : Action → Option β}
  {ofTransition : Transition → Option β} {index : Nat}

/-- Only a part that is not refused is added to its block. -/
theorem scopes_inScope (studio : Studio) (index : Nat) (call : Builder → Except Fault α × Builder)
    (add : Scope → α → Scope) :
    (studio.inScope index call add).2.scopes =
      match (studio.inScope index call add).1 with
      | .error _ => studio.scopes
      | .ok part => studio.scopes.modify index (add · part) := by
  cases hscope : studio.scopes[index]? with
  | none => rw [inScope_of_none hscope]
  | some scope =>
    rw [fst_inScope hscope]
    unfold inScope
    rw [hscope]
    dsimp only
    cases (studio.onApp scope.app call).1 with
    | error fault => exact scopes_onApp _ _ _
    | ok part =>
      unfold changeScope
      rw [scopes_onApp]

/-- The list of a block, which is empty as long as there is no such block. -/
def listAt (studio : Studio) (list : Scope → List β) (index : Nat) : List β :=
  (studio.scopes[index]?.map list).getD []

/-- A new block whose list is empty does not show. -/
theorem listAt_append {scope : Scope} (hscope : list scope = []) (index : Nat) :
    { studio with scopes := studio.scopes ++ [scope] }.listAt list index =
      studio.listAt list index := by
  unfold listAt
  dsimp only
  obtain hlt | heq | hgt := Nat.lt_trichotomy index studio.scopes.length
  · rw [List.getElem?_append_left hlt]
  · rw [heq, List.getElem?_concat_length, List.getElem?_eq_none (Nat.le_refl _)]
    exact hscope
  · have hlength : (studio.scopes ++ [scope]).length ≤ index := by
      rw [List.length_append, List.length_singleton]
      omega
    rw [List.getElem?_eq_none hlength, List.getElem?_eq_none (Nat.le_of_lt hgt)]

theorem listAt_inScope {call : Builder → Except Fault α × Builder} {add : Scope → α → Scope}
    {gain : α → Option β} (hadd : ∀ scope part, list (add scope part) =
      list scope ++ (gain part).toList) (top index : Nat) :
    (studio.inScope top call add).2.listAt list index =
      studio.listAt list index ++
        if index = top then ((studio.inScope top call add).1.toOption.bind gain).toList
        else [] := by
  unfold listAt
  rw [scopes_inScope]
  cases hresult : (studio.inScope top call add).1 with
  | error fault =>
    dsimp only
    split <;> exact (List.append_nil _).symm
  | ok part =>
    dsimp only
    rw [List.getElem?_modify]
    by_cases hsame : index = top
    · subst hsame
      rw [if_pos rfl]
      cases hscope : studio.scopes[index]? with
      | none =>
        rw [inScope_of_none hscope] at hresult
        cases hresult
      | some scope => simp [hadd, Except.toOption]
    · simp [hsame, Ne.symm hsame]

/-- A part of the open block is in the list of that block only. -/
theorem listAt_inScope_open {call : Builder → Except Fault α × Builder}
    {add : Scope → α → Scope} {gain : α → Option β} {top : Nat} {rest : List Nat}
    (hadd : ∀ scope part, list (add scope part) = list scope ++ (gain part).toList)
    (hopen : studio.openScopes = top :: rest) (hlength : studio.openScopes.length ≤ 1)
    (index : Nat) :
    (studio.inScope top call add).2.listAt list index =
      studio.listAt list index ++
        ((if index ∈ studio.openScopes then (studio.inScope top call add).1.toOption
          else none).bind gain).toList := by
  have hmem : index ∈ studio.openScopes ↔ index = top := by
    rw [hopen, List.length_cons] at hlength
    have hrest : rest = [] := List.eq_nil_of_length_eq_zero (by omega)
    rw [hopen, hrest, List.mem_singleton]
  rw [listAt_inScope hadd]
  by_cases hsame : index = top
  · rw [if_pos hsame, if_pos (hmem.2 hsame)]
  · rw [if_neg hsame, if_neg (mt hmem.1 hsame)]
    rfl

theorem listAt_finishScope (htally : Scope.Tally list ofAction ofTransition) (top index : Nat) :
    (studio.finishScope top).2.listAt list index = studio.listAt list index := by
  cases hscope : studio.scopes[top]? with
  | none => rw [finishScope_of_none hscope]
  | some scope =>
    have hadd : ∀ (scope : Scope) (state : State),
        list { scope with state := some state } = list scope ++ (none : Option β).toList :=
      fun scope state ↦ (htally.state scope (some state)).trans (List.append_nil _).symm
    rw [finishScope_of_some hscope, Prod.map_snd, id, listAt_inScope hadd]
    simp

theorem listAt_onApp (app : Nat) (call : Builder → Except Fault α × Builder) (index : Nat) :
    (studio.onApp app call).2.listAt list index = studio.listAt list index := by
  unfold listAt
  rw [scopes_onApp]

/-- One call adds to the list of a block what was added to the block while it was open. -/
theorem listAt_run (htally : Scope.Tally list ofAction ofTransition)
    (hopen : studio.openScopes.length ≤ 1) (call : StudioCall) (index : Nat) :
    (call.run studio).2.listAt list index =
      studio.listAt list index ++
        (((StudioCall.written? index (studio, call)).bind ofAction).toList ++
          ((StudioCall.left? index (studio, call)).bind ofTransition).toList) := by
  have hsame : studio.listAt list index = studio.listAt list index ++ ([] ++ []) :=
    (List.append_nil _).symm
  have heffect := call.effect_run studio
  generalize hrun : call.run studio = outcome at heffect ⊢
  cases heffect with
  | refused call fault =>
    obtain ⟨-, hwritten, hleft⟩ := StudioCall.silent_of_refused (congrArg Prod.fst hrun) index
    rw [hwritten, hleft]
    exact hsame
  | newScope opened => exact (listAt_append (htally.fresh _ _ _ _) index).trans hsame
  | finish opened => exact (listAt_finishScope htally _ index).trans hsame
  | declare opened => exact (listAt_onApp _ _ index).trans hsame
  | faultState opened => exact (listAt_onApp _ _ index).trans hsame
  | write name opened result =>
    dsimp only [StudioCall.written?, StudioCall.left?, Prod.map]
    rw [result, id, listAt_inScope_open htally.action opened hopen, Option.bind_none,
      Option.toList_none, List.append_nil]
  | when opened result =>
    dsimp only [StudioCall.written?, StudioCall.left?, Prod.map]
    rw [result]
    exact listAt_inScope_open htally.transition opened hopen index
  | after opened result =>
    dsimp only [StudioCall.written?, StudioCall.left?, Prod.map]
    rw [result]
    exact listAt_inScope_open htally.transition opened hopen index
  | _ => exact hsame

theorem makers_onApp (studio : Studio) (app : Nat) (call : Builder → Except Fault α × Builder) :
    (studio.onApp app call).2.makers = studio.makers := by
  unfold makers
  rw [scopes_onApp]

theorem makers_inScope {call : Builder → Except Fault α × Builder} {add : Scope → α → Scope}
    (hadd : ∀ scope part, (add scope part).app = scope.app) (top : Nat) :
    (studio.inScope top call add).2.makers = studio.makers := by
  unfold makers
  rw [scopes_inScope]
  cases (studio.inScope top call add).1 with
  | error fault => rfl
  | ok part =>
    apply List.ext_getElem?
    intro index
    rw [List.getElem?_map, List.getElem?_map, List.getElem?_modify]
    cases studio.scopes[index]? with
    | none => rfl
    | some scope =>
      dsimp only [Option.map_eq_map, Option.map_some]
      split
      · rw [hadd]
      · rfl

theorem makers_finishScope (studio : Studio) (top : Nat) :
    (studio.finishScope top).2.makers = studio.makers := by
  cases hscope : studio.scopes[top]? with
  | none => rw [finishScope_of_none hscope]
  | some scope =>
    rw [finishScope_of_some hscope, Prod.map_snd, id]
    apply makers_inScope
    exact fun _ _ ↦ rfl

theorem makers_run (studio : Studio) (call : StudioCall) :
    (call.run studio).2.makers =
      studio.makers ++ (StudioCall.maker? (studio, call)).toList := by
  have hsame : studio.makers = studio.makers ++ [] := (List.append_nil _).symm
  have heffect := call.effect_run studio
  generalize hrun : call.run studio = outcome at heffect ⊢
  cases heffect with
  | refused call fault =>
    rw [(StudioCall.silent_of_refused (congrArg Prod.fst hrun) 0).1]
    exact hsame
  | newScope opened =>
    dsimp only [StudioCall.maker?]
    rw [opened]
    exact List.map_append
  | finish opened => exact (makers_finishScope _ _).trans hsame
  | declare opened => exact (makers_onApp _ _ _).trans hsame
  | faultState opened => exact (makers_onApp _ _ _).trans hsame
  | write name opened result =>
    rw [result]
    refine (makers_inScope ?_ _).trans hsame
    exact fun _ _ ↦ rfl
  | when opened result =>
    rw [result]
    refine (makers_inScope ?_ _).trans hsame
    exact fun _ _ ↦ rfl
  | after opened result =>
    rw [result]
    refine (makers_inScope ?_ _).trans hsame
    exact fun _ _ ↦ rfl
  | _ => exact hsame

end Studio

/-! ## All calls -/

/-- What holds in the studio after the calls that were made. -/
structure Studio.Consistent (past : List (Studio × StudioCall)) (studio : Studio) : Prop where
  opened : studio.AtMostOneOpen
  makers : studio.makers = past.filterMap StudioCall.maker?
  actions : ∀ index, studio.listAt (·.actions) index = past.filterMap (StudioCall.written? index)
  transitions : ∀ index,
    studio.listAt (·.transitions) index = past.filterMap (StudioCall.left? index)

namespace Studio

theorem tally_actions : Scope.Tally (·.actions) some fun _ ↦ none where
  fresh _ _ _ _ := rfl
  action _ _ := rfl
  transition _ _ := (List.append_nil _).symm
  state _ _ := rfl

theorem tally_transitions : Scope.Tally (·.transitions) (fun _ ↦ none) some where
  fresh _ _ _ _ := rfl
  action _ _ := (List.append_nil _).symm
  transition _ _ := rfl
  state _ _ := rfl

/-- Every call keeps the studio consistent, refused or not. -/
theorem Consistent.perform {past : List (Studio × StudioCall)} {studio : Studio}
    (hconsistent : studio.Consistent past) (call : StudioCall) :
    (call.perform studio).Consistent (past ++ [(studio, call)]) := by
  rw [← StudioCall.snd_run]
  constructor
  · exact StudioCall.atMostOneOpen_run hconsistent.opened call
  · rw [makers_run, hconsistent.makers, filterMap_concat]
  · intro index
    rw [listAt_run tally_actions hconsistent.opened.scopes, hconsistent.actions, filterMap_concat]
    simp
  · intro index
    rw [listAt_run tally_transitions hconsistent.opened.scopes, hconsistent.transitions,
      filterMap_concat]
    simp

theorem consistent_run (calls : List StudioCall) :
    (calls.foldl StudioCall.perform {}).Consistent (moments StudioCall.perform {} calls) := by
  apply moments_induction
  · intro past studio call hconsistent
    exact hconsistent.perform call
  · exact ⟨⟨Nat.zero_le 1, Nat.zero_le 1⟩, rfl, fun _ ↦ rfl, fun _ ↦ rfl⟩

/-- After any row of calls, at most one application and one block are open, the next call changes
the program of one application at most, and each block holds what was added while it was open. -/
theorem contexts_of_calls (calls : List StudioCall) :
    let past := moments StudioCall.perform {} calls
    let studio := calls.foldl StudioCall.perform {}
    studio.openApps.length ≤ 1 ∧ studio.openScopes.length ≤ 1 ∧
      (∀ (call : StudioCall) (app : Nat) (builder : Builder), studio.apps[app]? = some builder →
        call.addressee? (past.filterMap StudioCall.maker?) studio ≠ some app →
        (call.perform studio).apps[app]? = some builder) ∧
      ∀ (index : Nat) (scope : Scope), studio.scopes[index]? = some scope →
        scope.actions = past.filterMap (StudioCall.written? index) ∧
          scope.transitions = past.filterMap (StudioCall.left? index) := by
  intro past studio
  have hconsistent : studio.Consistent past := consistent_run calls
  refine ⟨hconsistent.opened.apps, hconsistent.opened.scopes, ?_, ?_⟩
  · intro call app builder happ hother
    rw [← hconsistent.makers] at hother
    rw [← StudioCall.snd_run]
    exact StudioCall.apps_run_of_ne happ hother
  · intro index scope hscope
    have hactions := hconsistent.actions index
    have htransitions := hconsistent.transitions index
    unfold listAt at hactions htransitions
    rw [hscope] at hactions htransitions
    exact ⟨hactions, htransitions⟩

/-- A block that outlives the application in which it was made: the application is closed without
closing the block, and the block is opened again while another application is open. -/
def tangledCalls : List StudioCall :=
  [.newApp (.text "First") .nothing ⟨"main", 1⟩, .newApp (.text "Second") .nothing ⟨"main", 2⟩,
    .enterApp 0, .newScope (.text "idle") true ⟨"main", 3⟩, .enterScope 0,
    .write (.text "lamp") (.integer 1) ⟨"main", 4⟩, .enterApp 1, .exitApp,
    .write (.text "lamp") (.integer 0) ⟨"main", 5⟩, .enterApp 1, .enterScope 0,
    .write (.text "lamp") (.integer 2) ⟨"main", 6⟩, .write (.text "horn") (.integer 1) ⟨"main", 7⟩,
    .after (.integer 100) (.text "idle") ⟨"main", 8⟩]

theorem tangledCalls_contexts :
    let past := moments StudioCall.perform {} tangledCalls
    let studio := tangledCalls.foldl StudioCall.perform {}
    let closed := (StudioCall.exitScope 0 false).perform studio
    studio.openApps = [1] ∧ studio.openScopes = [0] ∧
      past.filterMap StudioCall.maker? = [0] ∧
      (past.filterMap (StudioCall.written? 0)).map (·.target) = ["lamp", "horn"] ∧
      (∀ builder, studio.apps[1]? = some builder → closed.apps[1]? = some builder) ∧
      closed.apps[0]?.map (·.program.stateNames) = some ["idle"] := by
  intro past studio closed
  have hmakers : past.filterMap StudioCall.maker? = [0] := by
    decide +kernel
  obtain ⟨-, -, hother, -⟩ := contexts_of_calls tangledCalls
  refine ⟨by decide +kernel, by decide +kernel, hmakers, by decide +kernel, ?_, by decide +kernel⟩
  intro builder hbuilder
  apply hother (.exitScope 0 false) 1 builder hbuilder
  rw [hmakers]
  decide

end Studio

end StateSketch
