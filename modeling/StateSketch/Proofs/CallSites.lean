import StateSketch.Proofs.Defects
import StateSketch.Proofs.Places

/-!
# Where diagnostics point

Whatever is called in the studio, and in whatever order, each part of an application stands at the
place of one of the calls that belong to the application.  So does each diagnostic of a part.  The
two diagnostics of the whole program take their file from the application and only their line from
another call; in an application that comes from a single file this makes no difference.
-/

namespace StateSketch

/-! ## Runs of calls -/

/-- A call in the studio.  Applications and blocks are given by their numbers. -/
inductive StudioCall where
  | newApp (name faultPin : Argument) (site : CallSite)
  | enterApp (app : Nat)
  | exitApp
  | newScope (name : Argument) (initial : Bool) (site : CallSite)
  | enterScope (scope : Nat)
  | exitScope (scope : Nat) (raised : Bool)
  | declare (kind : ResourceKind) (name port : Argument) (site : CallSite)
  | faultState (name blinks : Argument) (site : CallSite)
  | write (target level : Argument) (site : CallSite)
  | when (guard target : Argument) (site : CallSite)
  | after (milliseconds target : Argument) (site : CallSite)

/-- The block that parts of a state are added to. -/
def Studio.openBlock? (studio : Studio) : Option Scope :=
  studio.openScopes.head?.bind (studio.scopes[·]?)

namespace StudioCall

/-- The studio after a call, whether or not the call succeeded. -/
def perform (studio : Studio) : StudioCall → Studio
  | .newApp name faultPin site => (studio.newApp name faultPin site).2
  | .enterApp app => (studio.enterApp app).2
  | .exitApp => studio.exitApp.2
  | .newScope name initial site => (studio.newScope name initial site).2
  | .enterScope scope => (studio.enterScope scope).2
  | .exitScope scope raised => (studio.exitScope scope raised).2
  | .declare kind name port site => (studio.declare kind name port site).2
  | .faultState name blinks site => (studio.faultState name blinks site).2
  | .write target level site => (studio.write target level site).2
  | .when guard target site => (studio.when guard target site).2
  | .after milliseconds target site => (studio.after milliseconds target site).2

/-- The application that a call belongs to, with the place of the call.  A call in a block belongs
to the application of the block. -/
def visit? (studio : Studio) : StudioCall → Option (Nat × CallSite)
  | .newApp name faultPin site =>
    (studio.newApp name faultPin site).1.toOption.map (·, site)
  | .newScope _ _ site => studio.openApps.head?.map (·, site)
  | .declare _ _ _ site => studio.openApps.head?.map (·, site)
  | .faultState _ _ site => studio.openApps.head?.map (·, site)
  | .write _ _ site => studio.openBlock?.map (·.app, site)
  | .when _ _ site => studio.openBlock?.map (·.app, site)
  | .after _ _ site => studio.openBlock?.map (·.app, site)
  | _ => none

end StudioCall

/-- A studio with the calls that were made so far, each with its application. -/
structure Recording where
  studio : Studio := {}
  visits : List (Nat × CallSite) := []

namespace Recording

/-- The places of the calls that belong to an application. -/
def sites (recording : Recording) (app : Nat) : List CallSite :=
  (recording.visits.filter (·.1 == app)).map (·.2)

def step (recording : Recording) (call : StudioCall) : Recording where
  studio := call.perform recording.studio
  visits := recording.visits ++ (call.visit? recording.studio).toList

/-- What comes of a row of calls in an empty studio. -/
def run (calls : List StudioCall) : Recording :=
  calls.foldl step {}

theorem mem_sites {recording : Recording} {app : Nat} {site : CallSite} :
    site ∈ recording.sites app ↔ (app, site) ∈ recording.visits := by
  simp [sites]

theorem sites_subset_step (recording : Recording) (call : StudioCall) (app : Nat) :
    recording.sites app ⊆ (recording.step call).sites app := by
  intro site hsite
  rw [mem_sites] at hsite ⊢
  exact List.mem_append_left _ hsite

end Recording

/-! ## The studio -/

namespace Studio

theorem scopes_onApp {α : Type} (studio : Studio) (app : Nat)
    (call : Builder → Except Fault α × Builder) :
    (studio.onApp app call).2.scopes = studio.scopes := by
  unfold Studio.onApp
  cases studio.apps[app]? <;> rfl

theorem exists_of_onApp {α : Type} {studio : Studio} {app : Nat} {part : α}
    {call : Builder → Except Fault α × Builder} (hpart : (studio.onApp app call).1 = .ok part) :
    ∃ builder, (call builder).1 = .ok part := by
  unfold Studio.onApp at hpart
  cases hbuilder : studio.apps[app]? with
  | none =>
    rw [hbuilder] at hpart
    cases hpart
  | some builder =>
    rw [hbuilder] at hpart
    exact ⟨builder, hpart⟩

theorem snd_finishScope {studio : Studio} {index : Nat} {scope : Scope}
    (hscope : studio.scopes[index]? = some scope) :
    (studio.finishScope index).2 =
      (studio.inScope index
        (·.makeState scope.name (.ok (scope.actions.map .action))
          (.ok (scope.transitions.map .transition)) scope.initial scope.site.origin)
        fun scope state ↦ { scope with state := some state }).2 := by
  unfold Studio.finishScope Studio.inScope
  rw [hscope]
  dsimp only
  split <;> rename_i hresult <;> rw [hresult]

theorem openBlock?_of_openScopes {studio : Studio} {index : Nat} {rest : List Nat}
    (hopen : studio.openScopes = index :: rest) :
    studio.openBlock? = studio.scopes[index]? := by
  unfold Studio.openBlock?
  rw [hopen]
  rfl

end Studio

/-- Everything in the studio stands at the places of calls that belong to its application. -/
structure Studio.Located (studio : Studio) (sites : Nat → List CallSite) : Prop where
  apps : ∀ (app : Nat) (builder : Builder), studio.apps[app]? = some builder →
    builder.program.Located (sites app)
  scopes : ∀ scope ∈ studio.scopes, scope.Located (sites scope.app)

namespace Studio.Located

variable {studio : Studio} {sites more : Nat → List CallSite} {site : CallSite} {app : Nat}

theorem mono (hlocated : studio.Located sites) (hmore : ∀ app, sites app ⊆ more app) :
    studio.Located more :=
  ⟨fun app builder h ↦ (hlocated.apps app builder h).mono (hmore app),
    fun scope h ↦ (hlocated.scopes scope h).mono (hmore scope.app)⟩

theorem onApp {α : Type} {call : Builder → Except Fault α × Builder}
    (hlocated : studio.Located sites)
    (hcall : ∀ builder : Builder, builder.program.Located (sites app) →
      (call builder).2.program.Located (sites app)) :
    (studio.onApp app call).2.Located sites := by
  unfold Studio.onApp
  cases hbuilder : studio.apps[app]? with
  | none => exact hlocated
  | some builder =>
    refine ⟨fun other changed hchanged ↦ ?_, hlocated.scopes⟩
    dsimp only at hchanged
    by_cases hsame : app = other
    · subst hsame
      rw [List.getElem?_set_self (List.getElem?_eq_some_iff.1 hbuilder).1] at hchanged
      rw [← Option.some.inj hchanged]
      exact hcall builder (hlocated.apps app builder hbuilder)
    · rw [List.getElem?_set_ne hsame] at hchanged
      exact hlocated.apps other changed hchanged

theorem changeScope {change : Scope → Scope} {index : Nat} (hlocated : studio.Located sites)
    (hchange : ∀ scope, studio.scopes[index]? = some scope →
      (change scope).Located (sites (change scope).app)) :
    (studio.changeScope index change).Located sites := by
  refine ⟨hlocated.apps, fun scope hscope ↦ ?_⟩
  obtain ⟨position, hposition⟩ := List.mem_iff_getElem?.1 hscope
  unfold Studio.changeScope at hposition
  dsimp only at hposition
  rw [List.getElem?_modify] at hposition
  obtain ⟨before, hbefore, rfl⟩ := Option.map_eq_some_iff.1 hposition
  by_cases hsame : index = position
  · subst hsame
    rw [if_pos rfl]
    exact hchange before hbefore
  · rw [if_neg hsame]
    exact hlocated.scopes before (List.mem_of_getElem? hbefore)

theorem newApp {name faultPin : Argument} (hlocated : studio.Located sites)
    (hsite : ∀ app, (studio.newApp name faultPin site).1 = .ok app → site ∈ sites app) :
    (studio.newApp name faultPin site).2.Located sites := by
  unfold Studio.newApp at hsite ⊢
  cases hbuilder : Builder.ofApp name faultPin site with
  | error fault => exact hlocated
  | ok builder =>
    rw [hbuilder] at hsite
    refine ⟨fun app found hfound ↦ ?_, hlocated.scopes⟩
    dsimp only at hfound
    rw [List.getElem?_append] at hfound
    split at hfound
    · exact hlocated.apps app found hfound
    · have hlast : app = studio.apps.length := by
        have hlength : app - studio.apps.length < 1 := (List.getElem?_eq_some_iff.1 hfound).1
        omega
      rw [List.mem_singleton.1 (List.mem_of_getElem? hfound), hlast]
      exact Builder.located_of_ofApp (hsite _ rfl) hbuilder

theorem newScope {name : Argument} {initial : Bool} (hlocated : studio.Located sites)
    (hsite : ∀ app, studio.openApps.head? = some app → site ∈ sites app) :
    (studio.newScope name initial site).2.Located sites := by
  unfold Studio.newScope
  cases hopen : studio.openApps with
  | nil => exact hlocated
  | cons app rest =>
    rw [hopen] at hsite
    refine ⟨hlocated.apps, List.forall_mem_append.2 ⟨hlocated.scopes, ?_⟩⟩
    refine List.forall_mem_singleton.2 ⟨hsite app rfl, ?_, ?_⟩
    · exact fun action h ↦ absurd h List.not_mem_nil
    · exact fun transition h ↦ absurd h List.not_mem_nil

theorem declare {kind : ResourceKind} {name port : Argument} (hlocated : studio.Located sites)
    (hsite : ∀ app, studio.openApps.head? = some app → site ∈ sites app) :
    (studio.declare kind name port site).2.Located sites := by
  unfold Studio.declare
  cases hopen : studio.openApps with
  | nil => exact hlocated
  | cons app rest =>
    rw [hopen] at hsite
    apply hlocated.onApp
    intro builder hbuilder
    exact hbuilder.registerResource (hsite app rfl) kind name port

theorem faultState {name blinks : Argument} (hlocated : studio.Located sites)
    (hsite : ∀ app, studio.openApps.head? = some app → site ∈ sites app) :
    (studio.faultState name blinks site).2.Located sites := by
  unfold Studio.faultState
  cases hopen : studio.openApps with
  | nil => exact hlocated
  | cons app rest =>
    rw [hopen] at hsite
    cases studio.openScopes with
    | cons scope others => exact hlocated
    | nil =>
      apply hlocated.onApp
      intro builder hbuilder
      exact hbuilder.makeFaultState (hsite app rfl) name blinks

/-- What a builder makes for a block may change the program of the block's application, and
whatever it returns may change the block. -/
theorem inScope {α : Type} {index : Nat} {call : Builder → Except Fault α × Builder}
    {add : Scope → α → Scope} (hlocated : studio.Located sites)
    (hcall : ∀ (scope : Scope) (builder : Builder), studio.scopes[index]? = some scope →
      builder.program.Located (sites scope.app) →
      (call builder).2.program.Located (sites scope.app))
    (hadd : ∀ (scope : Scope) (builder : Builder) part, studio.scopes[index]? = some scope →
      (call builder).1 = .ok part → (add scope part).Located (sites (add scope part).app)) :
    (studio.inScope index call add).2.Located sites := by
  unfold Studio.inScope
  cases hscope : studio.scopes[index]? with
  | none => exact hlocated
  | some scope =>
    have hbuilt := hlocated.onApp (hcall scope · hscope)
    dsimp only
    cases hresult : (studio.onApp scope.app call).1 with
    | error fault => exact hbuilt
    | ok part =>
      obtain ⟨builder, hpart⟩ := exists_of_onApp hresult
      apply hbuilt.changeScope
      intro other hother
      -- The builder leaves the blocks alone, so this is still the block from before.
      rw [scopes_onApp] at hother
      exact hadd other builder part hother hpart

/-- A part that is constructed at the place of a call may be added to the block if the place of the
part is that of the call. -/
theorem construct_inScope {α : Type} {index : Nat} {make : Origin → Except Fault α}
    {add : Scope → α → Scope} (hlocated : studio.Located sites)
    (hsite : ∀ scope, studio.scopes[index]? = some scope → site ∈ sites scope.app)
    (hadd : ∀ (scope : Scope) part, scope.Located (sites scope.app) →
      site.origin ∈ (sites scope.app).map (·.origin) → make site.origin = .ok part →
      (add scope part).Located (sites (add scope part).app)) :
    (studio.inScope index (·.construct site.origin make Builder.addNothing) add).2.Located
      sites := by
  apply hlocated.inScope
  · intro scope builder hscope hbuilder
    exact hbuilder.construct_addNothing (hsite scope hscope) make
  · intro scope builder part hscope hpart
    apply hadd scope part
    · exact hlocated.scopes scope (List.mem_of_getElem? hscope)
    · exact List.mem_map_of_mem (hsite scope hscope)
    · exact Builder.make_eq_ok_of_construct hpart

theorem makeAction {index : Nat} {target level : Argument} (hlocated : studio.Located sites)
    (hsite : ∀ scope, studio.scopes[index]? = some scope → site ∈ sites scope.app) :
    (studio.inScope index (·.makeAction target level site.origin) addAction).2.Located sites := by
  apply hlocated.construct_inScope hsite
  intro scope action hblock horigin haction
  rw [← Action.origin_of_ofArguments haction] at horigin
  exact ⟨hblock.site, List.forall_mem_append.2
    ⟨hblock.actions, List.forall_mem_singleton.2 horigin⟩, hblock.transitions⟩

theorem makeTransition {index : Nat} {trigger target : Argument}
    (hlocated : studio.Located sites)
    (hsite : ∀ scope, studio.scopes[index]? = some scope → site ∈ sites scope.app) :
    (studio.inScope index (·.makeTransition trigger target site.origin)
      addTransition).2.Located sites := by
  apply hlocated.construct_inScope hsite
  intro scope transition hblock horigin htransition
  rw [← Transition.origin_of_ofArguments htransition] at horigin
  exact ⟨hblock.site, hblock.actions, List.forall_mem_append.2
    ⟨hblock.transitions, List.forall_mem_singleton.2 horigin⟩⟩

theorem finishScope {index : Nat} (hlocated : studio.Located sites) :
    (studio.finishScope index).2.Located sites := by
  cases hscope : studio.scopes[index]? with
  | none =>
    unfold Studio.finishScope
    rw [hscope]
    exact hlocated
  | some scope =>
    rw [snd_finishScope hscope]
    have hblock := hlocated.scopes scope (List.mem_of_getElem? hscope)
    apply hlocated.inScope
    · intro other builder hother hbuilder
      obtain rfl : scope = other := Option.some.inj (hscope.symm.trans hother)
      exact hbuilder.makeState hblock
    · intro other builder state hother _
      have hother := hlocated.scopes other (List.mem_of_getElem? hother)
      exact ⟨hother.site, hother.actions, hother.transitions⟩

theorem exitScope {index : Nat} {raised : Bool} (hlocated : studio.Located sites) :
    (studio.exitScope index raised).2.Located sites := by
  unfold Studio.exitScope
  cases studio.openScopes with
  | nil => exact hlocated
  | cons scope rest =>
    have hclosed : { studio with openScopes := rest }.Located sites :=
      ⟨hlocated.apps, hlocated.scopes⟩
    cases raised with
    | true => exact hclosed
    | false => exact hclosed.finishScope

theorem write {target level : Argument} (hlocated : studio.Located sites)
    (hsite : ∀ scope, studio.openBlock? = some scope → site ∈ sites scope.app) :
    (studio.write target level site).2.Located sites := by
  unfold Studio.write
  cases hopen : studio.openScopes with
  | nil => exact hlocated
  | cons index rest =>
    rw [openBlock?_of_openScopes hopen] at hsite
    dsimp only
    cases resourceName target with
    | error fault => exact hlocated
    | ok name => exact hlocated.makeAction hsite

theorem when {guard target : Argument} (hlocated : studio.Located sites)
    (hsite : ∀ scope, studio.openBlock? = some scope → site ∈ sites scope.app) :
    (studio.when guard target site).2.Located sites := by
  unfold Studio.when
  cases hopen : studio.openScopes with
  | nil => exact hlocated
  | cons index rest =>
    rw [openBlock?_of_openScopes hopen] at hsite
    dsimp only
    split
    · exact hlocated.makeTransition hsite
    · exact hlocated

theorem after {milliseconds target : Argument} (hlocated : studio.Located sites)
    (hsite : ∀ scope, studio.openBlock? = some scope → site ∈ sites scope.app) :
    (studio.after milliseconds target site).2.Located sites := by
  unfold Studio.after
  cases hopen : studio.openScopes with
  | nil => exact hlocated
  | cons index rest =>
    rw [openBlock?_of_openScopes hopen] at hsite
    dsimp only
    split
    · exact hlocated.makeTransition hsite
    · exact hlocated

/-- Whatever is called, everything stays at the places of calls, if the place of the call is
counted. -/
theorem perform (hlocated : studio.Located sites) (call : StudioCall)
    (hvisit : ∀ visit, call.visit? studio = some visit → visit.2 ∈ sites visit.1) :
    (call.perform studio).Located sites := by
  -- The place of the call is counted for the open application or for that of the open block.
  have hparent : ∀ {parent : Option Nat} {site : CallSite},
      call.visit? studio = parent.map (·, site) → ∀ app, parent = some app → site ∈ sites app :=
    fun hcall app happ ↦ hvisit (app, _) (hcall.trans (Option.map_eq_some_iff.2 ⟨app, happ, rfl⟩))
  have hblock : ∀ {site : CallSite}, call.visit? studio = studio.openBlock?.map (·.app, site) →
      ∀ scope, studio.openBlock? = some scope → site ∈ sites scope.app :=
    fun hcall scope hscope ↦
      hvisit (scope.app, _) (hcall.trans (Option.map_eq_some_iff.2 ⟨scope, hscope, rfl⟩))
  cases call with
  | newApp name faultPin site =>
    apply hlocated.newApp
    intro app happ
    apply hparent rfl
    rw [happ]
    rfl
  | enterApp app =>
    dsimp only [StudioCall.perform, Studio.enterApp]
    cases studio.openApps <;> exact ⟨hlocated.apps, hlocated.scopes⟩
  | exitApp =>
    dsimp only [StudioCall.perform, Studio.exitApp]
    cases studio.openApps <;> exact ⟨hlocated.apps, hlocated.scopes⟩
  | newScope name initial site => exact hlocated.newScope (hparent rfl)
  | enterScope scope =>
    dsimp only [StudioCall.perform, Studio.enterScope]
    cases studio.openScopes <;> exact ⟨hlocated.apps, hlocated.scopes⟩
  | exitScope scope raised => exact hlocated.exitScope
  | declare kind name port site => exact hlocated.declare (hparent rfl)
  | faultState name blinks site => exact hlocated.faultState (hparent rfl)
  | write target level site => exact hlocated.write (hblock rfl)
  | when guard target site => exact hlocated.when (hblock rfl)
  | after milliseconds target site => exact hlocated.after (hblock rfl)

end Studio.Located

/-! ## Runs -/

namespace Recording

theorem located_step {recording : Recording} (hlocated : recording.studio.Located recording.sites)
    (call : StudioCall) : (recording.step call).studio.Located (recording.step call).sites := by
  apply (hlocated.mono (recording.sites_subset_step call)).perform
  intro visit hvisit
  rw [mem_sites]
  apply List.mem_append_right
  rw [hvisit]
  exact List.mem_singleton_self visit

theorem located_foldl {recording : Recording} (calls : List StudioCall)
    (hlocated : recording.studio.Located recording.sites) :
    (calls.foldl step recording).studio.Located (calls.foldl step recording).sites := by
  induction calls generalizing recording with
  | nil => exact hlocated
  | cons call rest ih => exact ih (located_step hlocated call)

theorem located_run (calls : List StudioCall) : (run calls).studio.Located (run calls).sites := by
  apply located_foldl
  constructor
  · intro app builder happ
    cases happ
  · intro scope hscope
    cases hscope

end Recording

/-! ## Diagnostics -/

section Diagnostics

variable {program : Program} {sites : List CallSite} {finding : Diagnostic}

theorem Program.place_origin (program : Program) {site : CallSite} (hfile : site.file ≠ "") :
    program.place site.origin = site.origin := by
  have hnotEmpty : site.file.isEmpty = false := by
    simpa using hfile
  unfold Program.place Origin.withFallback firstFile CallSite.origin
  dsimp only
  rw [hnotEmpty]
  rfl

theorem Program.line_of_mem_nameFindings (hfinding : finding ∈ program.nameFindings) :
    finding.origin.line = none := by
  unfold Program.nameFindings at hfinding
  split at hfinding
  · cases hfinding
  · rw [List.mem_singleton.1 hfinding]
    rfl

theorem Program.origin_of_mem_markingFindings (hfinding : finding ∈ program.markingFindings) :
    program.hasSeveralMarkings = true ∧
      finding.origin = { line := program.markingLine, file := program.file } := by
  unfold Program.markingFindings at hfinding
  split at hfinding
  · rename_i hmarked
    rw [List.mem_singleton.1 hfinding]
    exact ⟨hmarked, rfl⟩
  · cases hfinding

theorem Program.place_mem (program : Program) (hfiles : ∀ site ∈ sites, site.file ≠ "")
    {origin : Origin} (horigin : origin ∈ sites.map (·.origin)) :
    program.place origin ∈ sites.map (·.origin) := by
  obtain ⟨site, hsite, rfl⟩ := List.mem_map.1 horigin
  rw [program.place_origin (hfiles site hsite)]
  exact horigin

namespace Program.Located

/-- What is reported about a part points at the call that made the part. -/
theorem origin_of_hasDefect (hlocated : program.Located sites)
    (hfiles : ∀ site ∈ sites, site.file ≠ "") {position : Position}
    (hdefect : program.HasDefect position finding) (hpart : position ≠ .initial) :
    finding.origin ∈ sites.map (·.origin) := by
  cases hdefect with
  | conflict recorded =>
    exact program.place_mem hfiles (hlocated.conflicts _ (List.mem_of_getElem? recorded))
  | action listed performed =>
    have hstate := hlocated.states _ (List.mem_of_getElem? listed)
    exact program.place_mem hfiles (hstate.actions _ (List.mem_of_getElem? performed))
  | sensor listed leaves =>
    have hstate := hlocated.states _ (List.mem_of_getElem? listed)
    exact program.place_mem hfiles (hstate.transitions _ (List.mem_of_getElem? leaves))
  | target listed leaves =>
    have hstate := hlocated.states _ (List.mem_of_getElem? listed)
    exact program.place_mem hfiles (hstate.transitions _ (List.mem_of_getElem? leaves))
  | repetition listed =>
    exact program.place_mem hfiles (hlocated.states _ (List.mem_of_getElem? listed)).origin
  | initial => exact absurd rfl hpart
  | faultPin missing listed =>
    exact program.place_mem hfiles (hlocated.states _ (List.mem_of_getElem? listed)).origin
  | faultPort given declared =>
    exact program.place_mem hfiles (hlocated.resources _ (List.mem_of_getElem? declared))

/-- The line in the warning about several initial states is that of some call. -/
theorem markingLine (hlocated : program.Located sites)
    (hmarked : program.hasSeveralMarkings = true) :
    ∃ site ∈ sites, program.markingLine = some site.line := by
  unfold Program.markingLine
  cases hinitial : program.initialState? with
  | none =>
    obtain ⟨line, hline⟩ := Option.isSome_iff_exists.1 (hlocated.marked hmarked)
    obtain ⟨site, hsite, rfl⟩ := hlocated.endLine line hline
    exact ⟨site, hsite, hline⟩
  | some state =>
    obtain ⟨name, -, hstate⟩ := Option.bind_eq_some_iff.1 hinitial
    have hmem := List.mem_reverse.1 (List.mem_of_find?_eq_some hstate)
    obtain ⟨site, hsite, horigin⟩ := List.mem_map.1 (hlocated.states state hmem).origin
    refine ⟨site, hsite, ?_⟩
    dsimp only
    rw [← horigin]
    rfl

/-- The line of a call in the program's file is the place of that call, unless the program was
made in another file. -/
theorem origin_of_line (hlocated : program.Located sites) {line : Option Int}
    (hline : ∃ caller ∈ sites, line = some caller.line) :
    ⟨line, program.file⟩ ∈ sites.map (·.origin) ∨
      ∃ caller ∈ sites, ∃ opener ∈ sites,
        program.file = some opener.file ∧ opener.file ≠ caller.file ∧
          (⟨line, program.file⟩ : Origin) = ⟨some caller.line, some opener.file⟩ := by
  obtain ⟨opener, hopener, hfile⟩ := hlocated.file
  obtain ⟨caller, hcaller, rfl⟩ := hline
  rw [hfile]
  by_cases hsame : opener.file = caller.file
  · rw [hsame]
    exact .inl (List.mem_map_of_mem hcaller)
  · exact .inr ⟨caller, hcaller, opener, hopener, rfl, hsame, rfl⟩

end Program.Located

end Diagnostics

/-- Every diagnostic points at a call of its application, with two exceptions.  A missing initial
state and several initial states are reported at the line of a call in the file where the
application was made, even if the call was made in another file.  The spelling of a name is reported
without a line, and so may be a missing initial state. -/
theorem Recording.diagnostics_at_calls {calls : List StudioCall} {app : Nat} {builder : Builder}
    {report : Report} {diagnostic : Diagnostic}
    (hfiles : ∀ site ∈ (run calls).sites app, site.file ≠ "")
    (hbuilder : (run calls).studio.apps[app]? = some builder)
    (hreport : builder.program.validate = .ok report) (hdiagnostic : diagnostic ∈ report.all) :
    diagnostic.origin ∈ ((run calls).sites app).map (·.origin) ∨
      (diagnostic.code ∈ [.missingInitialState, .multipleInitialStates] ∧
        ∃ caller ∈ (run calls).sites app, ∃ opener ∈ (run calls).sites app,
          builder.program.file = some opener.file ∧ opener.file ≠ caller.file ∧
            diagnostic.origin = ⟨some caller.line, some opener.file⟩) ∨
      (diagnostic.code ∈ [.missingInitialState, .nameCapitalization] ∧
        diagnostic.origin.line = none) := by
  have hlocated := (located_run calls).apps app builder hbuilder
  obtain ⟨-, -, rfl⟩ := (Program.validate_eq_ok_iff _ _).1 hreport
  obtain herror | hwarning := List.mem_append.1 hdiagnostic
  -- An error belongs to a defect, and all defects but one are defects of some part.
  · rw [← Program.map_snd_defects] at herror
    obtain ⟨⟨position, finding⟩, hentry, rfl⟩ := List.mem_map.1 herror
    have hdefect := Program.hasDefect_of_mem_defects hentry
    by_cases hposition : position = .initial
    · subst hposition
      cases hdefect with
      | initial missing =>
        obtain hend | ⟨line, hend⟩ := Option.eq_none_or_eq_some builder.program.endLine
        · exact .inr (.inr ⟨List.mem_cons_self, hend⟩)
        · obtain ⟨caller, hcaller, rfl⟩ := hlocated.endLine line hend
          have hpoint := hlocated.origin_of_line ⟨caller, hcaller, hend⟩
          exact hpoint.imp_right fun hother ↦ .inl ⟨List.mem_cons_self, hother⟩
    · exact .inl (hlocated.origin_of_hasDefect hfiles hdefect hposition)
  · rw [Program.warnings_ofDiagnostics_findings, List.append_assoc, List.mem_append,
      List.mem_append] at hwarning
    obtain hwarning | hname | hmarking := hwarning
    -- Nothing is said about the severity of a conflict, so it may be among the warnings.
    · obtain ⟨conflict, hconflict, rfl⟩ := List.mem_map.1 (List.mem_of_mem_filter hwarning)
      exact .inl (builder.program.place_mem hfiles (hlocated.conflicts conflict hconflict))
    · rw [Program.code_of_mem_nameFindings hname]
      exact .inr (.inr ⟨by decide, Program.line_of_mem_nameFindings hname⟩)
    · obtain ⟨hmarked, horigin⟩ := Program.origin_of_mem_markingFindings hmarking
      rw [Program.code_of_mem_markingFindings hmarking, horigin]
      have hpoint := hlocated.origin_of_line (hlocated.markingLine hmarked)
      exact hpoint.imp_right fun hother ↦ .inl ⟨by decide, hother⟩

/-- An application whose two states are declared in files of their own and are both marked as
initial, with some calls in the block of the first. -/
def spread (body : List StudioCall) : List StudioCall :=
  [StudioCall.newApp (.text "Spread") .nothing ⟨"main", 1⟩, .enterApp 0,
    .newScope (.text "idle") true ⟨"idle", 10⟩, .enterScope 0] ++ body ++
  [StudioCall.exitScope 0 false, .newScope (.text "run") true ⟨"run", 77⟩, .enterScope 1,
    .exitScope 1 false, .exitApp]

namespace Recording

theorem spread_diagnostics_at_calls :
    let recording := run (spread [.write (.text "lamp") (.integer 1) ⟨"idle", 12⟩])
    (∀ site ∈ recording.sites 0, site.file ≠ "") ∧
      ∃ builder report, recording.studio.apps[0]? = some builder ∧
        builder.program.validate = .ok report ∧
        report.codes = [.undeclaredResource, .multipleInitialStates] ∧
        ∀ diagnostic ∈ report.all,
          diagnostic.origin ∈ (recording.sites 0).map (·.origin) ∨
            (diagnostic.code ∈ [.missingInitialState, .multipleInitialStates] ∧
              ∃ caller ∈ recording.sites 0, ∃ opener ∈ recording.sites 0,
                builder.program.file = some opener.file ∧ opener.file ≠ caller.file ∧
                  diagnostic.origin = ⟨some caller.line, some opener.file⟩) ∨
            (diagnostic.code ∈ [.missingInitialState, .nameCapitalization] ∧
              diagnostic.origin.line = none) := by
  intro recording
  have hfiles : ∀ site ∈ recording.sites 0, site.file ≠ "" := by
    decide +kernel
  have hrun : recording.studio.apps[0]?.any (fun builder ↦
      builder.program.validate = .ok (Report.ofDiagnostics builder.program.findings) ∧
        (Report.ofDiagnostics builder.program.findings).codes =
          [.undeclaredResource, .multipleInitialStates]) := by
    decide +kernel
  obtain ⟨builder, hbuilder, hreport⟩ := (Option.any_eq_true _ _).1 hrun
  obtain ⟨hreport, hcodes⟩ := of_decide_eq_true hreport
  exact ⟨hfiles, builder, _, hbuilder, hreport, hcodes,
    fun diagnostic h ↦ diagnostics_at_calls hfiles hbuilder hreport h⟩

/-- Two calls in different files make up a place where nothing was called. -/
theorem spread_diagnostic_at_no_call :
    let recording := run (spread [])
    (∀ site ∈ recording.sites 0, site.file ≠ "") ∧
      ∃ builder report, recording.studio.apps[0]? = some builder ∧
        builder.program.validate = .ok report ∧
        ∃ diagnostic ∈ report.all, diagnostic.origin = ⟨some 77, some "main"⟩ ∧
          diagnostic.origin ∉ (recording.sites 0).map (·.origin) := by
  intro recording
  have hrun : recording.studio.apps[0]?.any (fun builder ↦
      builder.program.validate = .ok (Report.ofDiagnostics builder.program.findings) ∧
        ∃ diagnostic ∈ (Report.ofDiagnostics builder.program.findings).all,
          diagnostic.origin = ⟨some 77, some "main"⟩) := by
    decide +kernel
  have hsites : ⟨some 77, some "main"⟩ ∉ (recording.sites 0).map (·.origin) := by
    decide +kernel
  obtain ⟨builder, hbuilder, hreport⟩ := (Option.any_eq_true _ _).1 hrun
  obtain ⟨hreport, diagnostic, hdiagnostic, horigin⟩ := of_decide_eq_true hreport
  exact ⟨by decide +kernel, builder, _, hbuilder, hreport, diagnostic, hdiagnostic, horigin,
    horigin ▸ hsites⟩

end Recording

end StateSketch
