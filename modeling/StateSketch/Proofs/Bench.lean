import StateSketch.Workbench.Collection
import StateSketch.Workbench.View

/-!
# Reading objects off the workbench

What is read off an object depends on the objects that it speaks of.  All of them are on the
workbench, so more objects beside them change nothing.
-/

namespace StateSketch

namespace Workbench

variable {bench : Workbench} {handle : Handle} {thing : Thing}

/-- The workbench with one more object. -/
def put (bench : Workbench) (thing : Thing) : Workbench :=
  { bench with things := bench.things.push thing }

/-- Everything on the workbench is still there. -/
def Extends (before after : Workbench) : Prop :=
  ∀ index < before.things.size, after.things[index]? = before.things[index]?

theorem Extends.trans {first second third : Workbench} (hfirst : first.Extends second)
    (hsecond : second.Extends third) : first.Extends third := by
  intro index hindex
  have hlength : index < second.things.size := by
    have hget := hfirst index hindex
    rw [Array.getElem?_eq_getElem hindex] at hget
    exact (Array.getElem?_eq_some_iff.1 hget).1
  rw [hsecond index hlength, hfirst index hindex]

theorem extends_put (bench : Workbench) (thing : Thing) : bench.Extends (bench.put thing) := by
  intro index hindex
  unfold put
  rw [Array.getElem?_push_lt hindex, Array.getElem?_eq_getElem hindex]

theorem Extends.members_eq {after : Workbench} (hextends : bench.Extends after)
    (hindex : handle.index < bench.things.size) :
    after.members handle = bench.members handle := by
  rw [members, members, hextends handle.index hindex]

theorem Extends.content_eq {after : Workbench} (hextends : bench.Extends after)
    (hindex : handle.index < bench.things.size) :
    after.content handle = bench.content handle := by
  rw [content, content, hextends handle.index hindex]

theorem list?_eq_some_iff {datum : Datum} {items : List Datum} :
    bench.list? datum = some items ↔
      ∃ handle, datum = .object handle ∧ handle.sort = .list ∧
        bench.content handle = .items items := by
  unfold list?
  split
  · split <;> simp_all
  · simp_all

theorem index_lt_of_content {items : List Datum} (hcontent : bench.content handle = .items items) :
    handle.index < bench.things.size := by
  unfold content at hcontent
  cases hthing : bench.things[handle.index]? with
  | none => simp [hthing] at hcontent
  | some thing => exact (Array.getElem?_eq_some_iff.1 hthing).1

/-- A list that is read off is on the workbench, so it is read off as before. -/
theorem Extends.list?_eq_some {after : Workbench} (hextends : bench.Extends after) {datum : Datum}
    {items : List Datum} (hlist : bench.list? datum = some items) :
    after.list? datum = some items := by
  obtain ⟨handle, rfl, hsort, hcontent⟩ := list?_eq_some_iff.1 hlist
  refine list?_eq_some_iff.2 ⟨handle, rfl, hsort, ?_⟩
  rw [hextends.content_eq (index_lt_of_content hcontent), hcontent]

/-- The members of an object that were read off. -/
theorem members_of_fields? {sort : ObjectSort} {names : List String} {datum : Datum}
    {values : List Datum} (hfields : bench.fields? sort names datum = some values) :
    ∃ handle, datum = .object handle ∧ handle.sort = sort ∧
      bench.members handle = names.zip values := by
  cases datum with
  | object handle =>
    rw [fields?] at hfields
    split at hfields
    · rename_i hnames
      exact ⟨handle, rfl, hnames.1, List.zip_of_prod hnames.2 (Option.some.inj hfields)⟩
    · cases hfields
  | _ => cases hfields

theorem index_lt_of_mem_members {entry : String × Datum} (hentry : entry ∈ bench.members handle) :
    handle.index < bench.things.size := by
  unfold members at hentry
  cases hthing : bench.things[handle.index]? with
  | none => simp [hthing] at hentry
  | some thing => exact (Array.getElem?_eq_some_iff.1 hthing).1

/-- A registry is read off as before. -/
theorem Extends.registryIn?_eq {after : Workbench} (hextends : bench.Extends after) {datum : Datum}
    {registry : Registry} (hregistry : bench.registryIn? datum = some registry) :
    after.registryIn? datum = some registry := by
  unfold registryIn? at hregistry ⊢
  obtain ⟨values, hfields, hvalues⟩ := Option.bind_eq_some_iff.1 hregistry
  split at hvalues
  · rename_i resources conflicts
    obtain ⟨handle, rfl, hsort, hmembers⟩ := members_of_fields? hfields
    have hresources : ("_resources", resources) ∈ bench.members handle := by
      rw [hmembers]
      exact List.mem_cons_self
    have hsame : after.fields? .registry registryMembers (.object handle) =
        bench.fields? .registry registryMembers (.object handle) := by
      rw [fields?, fields?, hextends.members_eq (index_lt_of_mem_members hresources)]
    simp only [Option.bind_eq_bind, Option.bind_eq_some_iff, Option.pure_def,
      Option.some.injEq] at hvalues
    obtain ⟨declared, hdeclared, made, hmade, recorded, hrecorded, told, htold, rfl⟩ := hvalues
    simp only [hsame, hfields, hextends.list?_eq_some hdeclared, hextends.list?_eq_some hrecorded,
      hmade, htold, Option.bind_eq_bind, Option.bind_some, Option.pure_def]
  · cases hvalues

/-! A new object is found at the end. -/

theorem members_put_self (bench : Workbench) (thing : Thing) (sort : ObjectSort) :
    (bench.put thing).members ⟨sort, bench.things.size⟩ = thing.members := by
  simp [members, put]

theorem content_put_self (bench : Workbench) (thing : Thing) (sort : ObjectSort) :
    (bench.put thing).content ⟨sort, bench.things.size⟩ = thing.content := by
  simp [content, put]

/-- The data that the members of a program are read off from. -/
structure ProgramParts where
  registry : Datum
  states : Handle
  /-- The items of the list of states. -/
  items : List Datum
  initial : Datum
  faultPin : Datum
  endLine : Datum
  file : Datum

structure HoldsProgram (bench : Workbench) (handle : Handle) (program : Program)
    (parts : ProgramParts) : Prop where
  sort : handle.sort = .program
  members : bench.members handle = (ObjectSort.fieldNames .program).zip
    [.text program.name, parts.registry, .object parts.states, parts.initial, parts.faultPin,
      parts.endLine, parts.file, .integer program.initialMarkings]
  registry : bench.registryIn? parts.registry = some program.registry
  states_sort : parts.states.sort = .list
  states_content : bench.content parts.states = .items parts.items
  states : parts.items.mapM Datum.state? = some program.states
  initial : parts.initial.textOrNothing? = some program.initial
  faultPin : pin? parts.faultPin = some program.faultPin
  endLine : parts.endLine.line? = some program.endLine
  file : parts.file.textOrNothing? = some program.file

theorem exists_holdsProgram {datum : Datum} {program : Program}
    (hprogram : bench.program? datum = some program) :
    ∃ handle parts, datum = .object handle ∧ bench.HoldsProgram handle program parts := by
  unfold program? at hprogram
  obtain ⟨values, hfields, hvalues⟩ := Option.bind_eq_some_iff.1 hprogram
  obtain ⟨handle, rfl, hsort, hmembers⟩ := members_of_fields? hfields
  split at hvalues
  · rename_i name registry states initial faultPin endLine file markings
    simp only [Option.bind_eq_bind, Option.bind_eq_some_iff, Option.pure_def,
      Option.some.injEq] at hvalues
    obtain ⟨declared, hregistry, items, hlist, listed, hstates, chosen, hinitial, pin, hpin, line,
      hline, source, hfile, rfl⟩ := hvalues
    obtain ⟨inner, rfl, hinner, hcontent⟩ := list?_eq_some_iff.1 hlist
    exact ⟨handle, ⟨registry, inner, items, initial, faultPin, endLine, file⟩, rfl, hsort, hmembers,
      hregistry, hinner, hcontent, hstates, hinitial, hpin, hline, hfile⟩
  · cases hvalues

theorem HoldsProgram.program?_eq_some {program : Program} {parts : ProgramParts}
    (hholds : bench.HoldsProgram handle program parts) :
    bench.program? (.object handle) = some program := by
  have hfields : bench.fields? .program (ObjectSort.fieldNames .program) (.object handle) =
      some [.text program.name, parts.registry, .object parts.states, parts.initial,
        parts.faultPin, parts.endLine, parts.file, .integer program.initialMarkings] := by
    rw [fields?, hholds.sort, hholds.members]
    rfl
  have hlist : bench.list? (.object parts.states) = some parts.items :=
    list?_eq_some_iff.2 ⟨parts.states, rfl, hholds.states_sort, hholds.states_content⟩
  simp only [program?, hfields, hholds.registry, hlist, hholds.states, hholds.initial,
    hholds.faultPin, hholds.endLine, hholds.file, Option.bind_eq_bind, Option.bind_some,
    Option.pure_def]

theorem isObject_of_registryIn? {datum : Datum} {registry : Registry}
    (hregistry : bench.registryIn? datum = some registry) : datum.isObject .registry = true := by
  obtain ⟨values, hfields, -⟩ := Option.bind_eq_some_iff.1 hregistry
  obtain ⟨handle, rfl, hsort, -⟩ := members_of_fields? hfields
  simpa [Datum.isObject] using hsort

theorem isObject_of_program? {datum : Datum} {program : Program}
    (hprogram : bench.program? datum = some program) : datum.isObject .program = true := by
  obtain ⟨values, hfields, -⟩ := Option.bind_eq_some_iff.1 hprogram
  obtain ⟨handle, rfl, hsort, -⟩ := members_of_fields? hfields
  simpa [Datum.isObject] using hsort

theorem items_list {items : List Datum} (hsort : handle.sort = .list)
    (hcontent : bench.content handle = .items items) :
    bench.items (.object handle) = .ok items := by
  have hinner : bench.innermost depthLimit (.object handle) = .ok (.object handle) := by
    have hplain : (Datum.object handle).isObject .registry = false := by
      simp [Datum.isObject, hsort]
    unfold depthLimit innermost
    rw [hplain]
    rfl
  have hitems : bench.itemsAt handle = items := by
    rw [itemsAt, hcontent]
  unfold Workbench.items
  rw [hinner]
  dsimp only [bind, Except.bind]
  rw [hsort, ← hitems]
  rfl

end Workbench

end StateSketch
