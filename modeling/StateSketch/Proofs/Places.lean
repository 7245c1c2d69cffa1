import StateSketch.Proofs.Scripts
import StateSketch.Validation

/-!
# Places of the parts of a program

A builder that is only called with the places of calls makes a program whose parts all stand at such
places, whether or not a call is refused.  The file and the last line of the program come from calls
as well, but each from a call of its own.
-/

namespace StateSketch

/-! ## Parts and their places -/

/-- The parts of a state stand at the places of calls. -/
structure State.Located (state : State) (sites : List CallSite) : Prop where
  origin : state.origin ∈ sites.map (·.origin)
  actions : ∀ action ∈ state.actions, action.origin ∈ sites.map (·.origin)
  transitions : ∀ transition ∈ state.transitions, transition.origin ∈ sites.map (·.origin)

/-- All parts of a program stand at the places of calls, and its file and its last line are taken
from calls, but perhaps not from the same one.  Nothing is marked before a line is reached. -/
structure Program.Located (program : Program) (sites : List CallSite) : Prop where
  file : ∃ site ∈ sites, program.file = some site.file
  endLine : ∀ line, program.endLine = some line → ∃ site ∈ sites, site.line = line
  marked : program.hasSeveralMarkings = true → program.endLine.isSome
  resources : ∀ resource ∈ program.registry.resources, resource.origin ∈ sites.map (·.origin)
  conflicts : ∀ conflict ∈ program.registry.conflicts, conflict.origin ∈ sites.map (·.origin)
  states : ∀ state ∈ program.states, state.Located sites

/-- The block of a state and its parts stand at the places of calls. -/
structure Scope.Located (scope : Scope) (sites : List CallSite) : Prop where
  site : scope.site ∈ sites
  actions : ∀ action ∈ scope.actions, action.origin ∈ sites.map (·.origin)
  transitions : ∀ transition ∈ scope.transitions, transition.origin ∈ sites.map (·.origin)

section Mono

variable {sites more : List CallSite}

theorem State.Located.mono {state : State} (hlocated : state.Located sites)
    (hmore : sites ⊆ more) : state.Located more := by
  have horigins := List.map_subset (·.origin) hmore
  exact ⟨horigins hlocated.origin, fun action h ↦ horigins (hlocated.actions action h),
    fun transition h ↦ horigins (hlocated.transitions transition h)⟩

theorem Program.Located.mono {program : Program} (hlocated : program.Located sites)
    (hmore : sites ⊆ more) : program.Located more := by
  have horigins := List.map_subset (·.origin) hmore
  refine ⟨?_, fun line hline ↦ ?_, hlocated.marked,
    fun resource h ↦ horigins (hlocated.resources resource h),
    fun conflict h ↦ horigins (hlocated.conflicts conflict h),
    fun state h ↦ (hlocated.states state h).mono hmore⟩
  · obtain ⟨site, hsite, hfile⟩ := hlocated.file
    exact ⟨site, hmore hsite, hfile⟩
  · obtain ⟨site, hsite, hline⟩ := hlocated.endLine line hline
    exact ⟨site, hmore hsite, hline⟩

theorem Scope.Located.mono {scope : Scope} (hlocated : scope.Located sites)
    (hmore : sites ⊆ more) : scope.Located more := by
  have horigins := List.map_subset (·.origin) hmore
  exact ⟨hmore hlocated.site, fun action h ↦ horigins (hlocated.actions action h),
    fun transition h ↦ horigins (hlocated.transitions transition h)⟩

end Mono

/-! ## Builders -/

section Builders

variable {sites : List CallSite} {site : CallSite} {program : Program} {builder : Builder}

theorem Program.isSome_endLine_reachLine (program : Program) (line : Int) :
    (program.reachLine (some line)).endLine.isSome := by
  unfold Program.reachLine
  cases program.endLine <;> rfl

theorem Program.file_reachLine (program : Program) (line : Option Int) :
    (program.reachLine line).file = program.file := by
  unfold Program.reachLine
  split <;> rfl

/-- The last line is the one that was reached or the last one before. -/
theorem Program.endLine_reachLine {reached line : Int}
    (hline : (program.reachLine (some reached)).endLine = some line) :
    line = reached ∨ program.endLine = some line := by
  unfold Program.reachLine at hline
  cases hend : program.endLine with
  | none =>
    rw [hend] at hline
    exact .inl (Option.some.inj hline).symm
  | some last =>
    rw [hend] at hline
    obtain rfl : max last reached = line := Option.some.inj hline
    obtain hmax | hmax := Int.le_total last reached
    · exact .inl (Int.max_eq_right hmax)
    · rw [Int.max_eq_left hmax]
      exact .inr rfl

theorem Program.Located.reachLine (hlocated : program.Located sites) (hsite : site ∈ sites) :
    (program.reachLine (some site.line)).Located sites := by
  have hreached := program.isSome_endLine_reachLine site.line
  refine ⟨?_, fun line hline ↦ ?_, fun _ ↦ hreached, ?_, ?_, ?_⟩
  · rw [Program.file_reachLine]
    exact hlocated.file
  · obtain rfl | hbefore := Program.endLine_reachLine hline
    · exact ⟨site, hsite, rfl⟩
    · exact hlocated.endLine line hbefore
  · rw [Program.registry_reachLine]
    exact hlocated.resources
  · rw [Program.registry_reachLine]
    exact hlocated.conflicts
  · rw [Program.states_reachLine]
    exact hlocated.states

theorem Builder.construct_at {α : Type} (builder : Builder) (site : CallSite)
    (make : Origin → Except Fault α) (add : Program → α → Except Fault Unit × Program) :
    builder.construct site.origin make add =
      let reached := builder.program.reachLine (some site.line)
      match make site.origin with
      | .error fault => (.error fault, { builder with program := reached })
      | .ok part =>
        ((add reached part).1.map fun _ ↦ part, { builder with program := (add reached part).2 }) :=
  rfl

/-- Whatever is constructed at the place of a call, and whether or not it is refused, the program
stays at the places of calls. -/
theorem Program.Located.construct {α : Type} {make : Origin → Except Fault α}
    {add : Program → α → Except Fault Unit × Program} (hlocated : builder.program.Located sites)
    (hsite : site ∈ sites)
    (hadd : ∀ {program part}, program.Located sites → program.endLine.isSome →
      make site.origin = .ok part → (add program part).2.Located sites) :
    (builder.construct site.origin make add).2.program.Located sites := by
  have hreached := hlocated.reachLine hsite
  rw [Builder.construct_at]
  cases hmake : make site.origin with
  | error fault => exact hreached
  | ok part => exact hadd hreached (builder.program.isSome_endLine_reachLine site.line) hmake

theorem Builder.make_eq_ok_of_construct {α : Type} {make : Origin → Except Fault α}
    {add : Program → α → Except Fault Unit × Program} {part : α}
    (hpart : (builder.construct site.origin make add).1 = .ok part) :
    make site.origin = .ok part := by
  rw [Builder.construct_at] at hpart
  cases hmake : make site.origin with
  | error fault =>
    rw [hmake] at hpart
    cases hpart
  | ok made =>
    rw [hmake] at hpart
    dsimp only at hpart
    cases hadded : (add (builder.program.reachLine (some site.line)) made).1 with
    | error fault =>
      rw [hadded] at hpart
      cases hpart
    | ok done =>
      rw [hadded] at hpart
      exact hpart

/-! Each part stands where it is made. -/

theorem Resource.origin_of_ofArguments {name port : Argument} {kind : Except Fault ResourceKind}
    {origin : Origin} {resource : Resource}
    (hresource : Resource.ofArguments name kind port origin = .ok resource) :
    resource.origin = origin := by
  unfold Resource.ofArguments at hresource
  obtain ⟨_, -, hresource⟩ := Fault.bind_eq_ok_iff.1 hresource
  obtain ⟨_, -, hresource⟩ := Fault.bind_eq_ok_iff.1 hresource
  obtain ⟨_, -, hresource⟩ := Fault.bind_eq_ok_iff.1 hresource
  exact congrArg Resource.origin (Except.ok.inj hresource).symm

theorem Action.origin_of_ofArguments {target level : Argument} {origin : Origin} {action : Action}
    (haction : Action.ofArguments target level origin = .ok action) : action.origin = origin := by
  unfold Action.ofArguments at haction
  obtain ⟨_, -, haction⟩ := Fault.bind_eq_ok_iff.1 haction
  obtain ⟨_, -, haction⟩ := Fault.bind_eq_ok_iff.1 haction
  exact congrArg Action.origin (Except.ok.inj haction).symm

theorem Transition.origin_of_ofArguments {trigger target : Argument} {origin : Origin}
    {transition : Transition}
    (htransition : Transition.ofArguments trigger target origin = .ok transition) :
    transition.origin = origin := by
  unfold Transition.ofArguments at htransition
  split at htransition
  · unfold Transition.onGuard at htransition
    obtain ⟨_, -, htransition⟩ := Fault.bind_eq_ok_iff.1 htransition
    obtain ⟨_, -, htransition⟩ := Fault.bind_eq_ok_iff.1 htransition
    exact congrArg Transition.origin (Except.ok.inj htransition).symm
  · unfold Transition.onDelay at htransition
    obtain ⟨_, -, htransition⟩ := Fault.bind_eq_ok_iff.1 htransition
    obtain ⟨_, -, htransition⟩ := Fault.bind_eq_ok_iff.1 htransition
    exact congrArg Transition.origin (Except.ok.inj htransition).symm
  · cases htransition

/-- Items that were only wrapped come out as they went in. -/
theorem mapM_map_eq_ok {α β : Type} {wrap : α → β} {unwrap : β → Except Fault α}
    (hunwrap : ∀ item, unwrap (wrap item) = .ok item) (items : List α) :
    (items.map wrap).mapM unwrap = .ok items := by
  induction items with
  | nil => rfl
  | cons item rest ih =>
    rw [List.map_cons, List.mapM_cons, hunwrap, ih]
    rfl

theorem State.checkBody_eq_ok {name : String} {actions : List Action}
    {transitions : List Transition} {blinks : Argument} {body : Body}
    (hbody : State.checkBody name actions transitions blinks = .ok body) :
    body = .normal actions transitions ∨ ∃ count, body = .fault count := by
  unfold State.checkBody at hbody
  split at hbody
  · exact .inl (Except.ok.inj hbody).symm
  · split at hbody
    · cases hbody
    · split at hbody
      · exact .inr ⟨_, (Except.ok.inj hbody).symm⟩
      · cases hbody
  · cases hbody

/-- A state stands where it is made, and its parts where they were made. -/
theorem State.located_of_ofArguments {name blinks : Argument} {actions : List Action}
    {transitions : List Transition} {state : State} (hsite : site ∈ sites)
    (hactions : ∀ action ∈ actions, action.origin ∈ sites.map (·.origin))
    (htransitions : ∀ transition ∈ transitions, transition.origin ∈ sites.map (·.origin))
    (hstate : State.ofArguments name (.ok (actions.map .action))
      (.ok (transitions.map .transition)) blinks site.origin = .ok state) :
    state.Located sites := by
  have hsteps : (actions.map Argument.action).mapM (·.toAction) = .ok actions := by
    apply mapM_map_eq_ok
    exact fun _ ↦ rfl
  have hedges : (transitions.map Argument.transition).mapM (·.toTransition) =
      .ok transitions := by
    apply mapM_map_eq_ok
    exact fun _ ↦ rfl
  unfold State.ofArguments at hstate
  obtain ⟨checked, -, hstate⟩ := Fault.bind_eq_ok_iff.1 hstate
  simp only [bind, Except.bind, hsteps, hedges] at hstate
  cases hbody : State.checkBody checked actions transitions blinks with
  | error fault =>
    rw [hbody] at hstate
    cases hstate
  | ok body =>
    rw [hbody] at hstate
    obtain rfl := Except.ok.inj hstate
    have horigin : site.origin ∈ sites.map (·.origin) := List.mem_map_of_mem hsite
    obtain rfl | ⟨count, rfl⟩ := State.checkBody_eq_ok hbody
    · exact ⟨horigin, hactions, htransitions⟩
    · exact ⟨horigin, fun action h ↦ absurd h List.not_mem_nil,
        fun transition h ↦ absurd h List.not_mem_nil⟩

/-- A conflict is reported where the later resource is declared. -/
theorem Registry.origin_of_mem_conflictsOf {registry : Registry} {resource : Resource}
    {conflict : Diagnostic} (hconflict : conflict ∈ registry.conflictsOf resource) :
    conflict.origin = resource.origin := by
  obtain ⟨-, rfl⟩ | ⟨earlier, -, -, rfl⟩ := Registry.mem_conflictsOf_iff.1 hconflict
  · rfl
  · rfl

/-- A new program has no parts, and its file is that of the call that makes it. -/
theorem Builder.located_of_ofApp {name faultPin : Argument} (hsite : site ∈ sites)
    (hbuilder : Builder.ofApp name faultPin site = .ok builder) :
    builder.program.Located sites := by
  unfold Builder.ofApp Builder.start Program.start Program.ofArguments at hbuilder
  cases hname : Program.checkName name with
  | error fault =>
    rw [hname] at hbuilder
    cases hbuilder
  | ok checked =>
    cases hpin : faultPin.faultPin with
    | error fault =>
      rw [hname, hpin] at hbuilder
      cases hbuilder
    | ok pin =>
      rw [hname, hpin] at hbuilder
      obtain rfl := Except.ok.inj hbuilder
      refine ⟨⟨site, hsite, rfl⟩, ?_, ?_, ?_, ?_, ?_⟩
      · exact fun line hline ↦ absurd hline (Option.some_ne_none line).symm
      · exact fun hmarked ↦ absurd (show false = true from hmarked) Bool.false_ne_true
      all_goals exact fun _ h ↦ absurd h List.not_mem_nil

/-! Each call of a builder at the place of a call keeps a program at the places of calls. -/

namespace Program.Located

theorem addState {state : State} (hlocated : program.Located sites)
    (hreached : program.endLine.isSome) (hstate : state.Located sites) (initial : Bool) :
    (program.addState state initial).Located sites := by
  have hstates : ∀ other ∈ (program.addState state initial).states, other.Located sites := by
    intro other hother
    rw [Program.states_addState] at hother
    obtain hother | hother := List.mem_append.1 hother
    · exact hlocated.states other hother
    · rw [List.mem_singleton.1 hother]
      exact hstate
  cases initial <;>
    exact ⟨hlocated.file, hlocated.endLine, fun _ ↦ hreached, hlocated.resources,
      hlocated.conflicts, hstates⟩

theorem register {resource : Resource} (hlocated : program.Located sites)
    (hresource : resource.origin ∈ sites.map (·.origin)) :
    { program with registry := (program.registry.register resource).2 }.Located sites := by
  have hconflicts : ∀ conflict ∈ program.registry.conflictsOf resource,
      conflict.origin ∈ sites.map (·.origin) := by
    intro conflict hconflict
    rw [Registry.origin_of_mem_conflictsOf hconflict]
    exact hresource
  unfold Registry.register
  split
  · refine ⟨hlocated.file, hlocated.endLine, hlocated.marked, ?_, ?_, hlocated.states⟩
    · exact List.forall_mem_append.2 ⟨hlocated.resources, List.forall_mem_singleton.2 hresource⟩
    · exact List.forall_mem_append.2 ⟨hlocated.conflicts, hconflicts⟩
  · have hnames := (List.forall_mem_append.1 hconflicts).1
    exact ⟨hlocated.file, hlocated.endLine, hlocated.marked, hlocated.resources,
      List.forall_mem_append.2 ⟨hlocated.conflicts, hnames⟩, hlocated.states⟩

theorem registerResource (hlocated : builder.program.Located sites) (hsite : site ∈ sites)
    (kind : ResourceKind) (name port : Argument) :
    (builder.registerResource port (.ok kind) name site.origin).2.program.Located sites := by
  apply hlocated.construct hsite
  intro program resource hprogram _ hresource
  apply hprogram.register
  rw [Resource.origin_of_ofArguments hresource]
  exact List.mem_map_of_mem hsite

theorem makeState (hlocated : builder.program.Located sites) {scope : Scope}
    (hscope : scope.Located sites) :
    (builder.makeState scope.name (.ok (scope.actions.map .action))
      (.ok (scope.transitions.map .transition)) scope.initial
      scope.site.origin).2.program.Located sites := by
  apply hlocated.construct hscope.site
  intro program state hprogram hreached hstate
  apply hprogram.addState hreached
  exact State.located_of_ofArguments hscope.site hscope.actions hscope.transitions hstate

theorem makeFaultState (hlocated : builder.program.Located sites) (hsite : site ∈ sites)
    (name blinks : Argument) :
    (builder.makeFaultState name blinks site.origin).2.program.Located sites := by
  apply hlocated.construct hsite
  intro program state hprogram hreached hstate
  have hmade : State.ofArguments name (.ok (([] : List Action).map .action))
      (.ok (([] : List Transition).map .transition)) blinks site.origin = .ok state :=
    hstate
  refine hprogram.addState hreached (State.located_of_ofArguments hsite ?_ ?_ hmade) false
  · exact fun action h ↦ absurd h List.not_mem_nil
  · exact fun transition h ↦ absurd h List.not_mem_nil

theorem construct_addNothing {α : Type} (hlocated : builder.program.Located sites)
    (hsite : site ∈ sites) (make : Origin → Except Fault α) :
    (builder.construct site.origin make Builder.addNothing).2.program.Located sites := by
  apply hlocated.construct hsite
  intro program part hprogram _ _
  exact hprogram

end Program.Located

end Builders

end StateSketch
