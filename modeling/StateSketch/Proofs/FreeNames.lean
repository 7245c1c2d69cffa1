import StateSketch.Proofs.EntryPoints
import StateSketch.Session.Symbols

/-!
# Free names

A symbol is looked for beside a set of names that are in use: the name itself is tried first, then
its numbered forms.  The set is finite and the numbered forms are pairwise different, so the search
ends.  It comes to the least number that is free, and the symbol is then added to the set.
-/

namespace StateSketch

/-! ## The search -/

namespace Symbol

/-- A search for a free number, from a number on, with the tries that it takes and the name that it
comes to.  Nothing bounds the tries. -/
inductive Search (taken : String → Prop) (base : String) : Nat → Nat → String → Prop where
  | stop {n : Nat} (hfree : ¬taken (numbered base n)) : Search taken base n 1 (numbered base n)
  | next {n tries : Nat} {symbol : String} (htaken : taken (numbered base n))
      (hrest : Search taken base (n + 1) tries symbol) : Search taken base n (tries + 1) symbol

/-- Every try but the last one uses up a name that is still ahead. -/
theorem exists_search (base : String) (used : List String) (n : Nat) :
    ∃ tries ≤ (ahead base used n).length + 1,
      Search (· ∈ used) base n tries (numbered base (freeNumber base used n)) := by
  fun_induction freeNumber base used n with
  | case1 n htaken ih =>
    obtain ⟨tries, hbound, hsearch⟩ := ih
    have hless := length_ahead_succ_lt htaken
    exact ⟨tries + 1, by omega, .next htaken hsearch⟩
  | case2 n hfree => exact ⟨1, by omega, .stop hfree⟩

/-- A name in use gets the first number that is free.  There are no more tries than names in use and
one, as only those can be ahead. -/
theorem exists_fresh_eq_numbered {base : String} {used : List String} (hbase : base ∈ used) :
    ∃ n tries, fresh base used = numbered base n ∧ 2 ≤ n ∧
      (∀ m, 2 ≤ m → m < n → numbered base m ∈ used) ∧
      Search (· ∈ used) base 2 tries (fresh base used) ∧ tries ≤ used.length + 1 := by
  have hfresh : fresh base used = numbered base (freeNumber base used 2) := if_pos hbase
  have hahead : (ahead base used 2).length ≤ used.length := List.length_filter_le _ _
  obtain ⟨hlow, -, hbefore⟩ := freeNumber_spec base used 2
  obtain ⟨tries, hbound, hsearch⟩ := exists_search base used 2
  rw [hfresh]
  exact ⟨freeNumber base used 2, tries, rfl, hlow, hbefore, hsearch, by omega⟩

end Symbol

theorem Datum.mem_filterMap_text? {items : List Datum} {word : String} :
    word ∈ items.filterMap Datum.text? ↔ .text word ∈ items := by
  rw [List.mem_filterMap]
  constructor
  · rintro ⟨item, hitem, htext⟩
    cases item with
    | text value => rwa [← Option.some.inj htext]
    | _ => cases htext
  · exact fun hword ↦ ⟨.text word, hword, rfl⟩

/-! ## Collections -/

/-- The data that answer for every word whether they have it. -/
def Datum.isCollection : Datum → Bool
  | .text _ => true
  | .tuple _ => true
  | .object handle => handle.sort ∈ [ObjectSort.list, .set, .table]
  | _ => false

namespace Workbench

variable {bench : Workbench} {handle : Handle} {items : List Datum}

/-- A collection has a word; a text has those that are stretches of it, and a table its keys. -/
def HasWord (bench : Workbench) (word : String) : Datum → Prop
  | .text value => word.toList <:+: value.toList
  | .tuple items => .text word ∈ items
  | .object handle =>
    match handle.sort with
    | .list => .text word ∈ bench.itemsAt handle
    | .set => .text word ∈ bench.itemsAt handle
    | .table => word ∈ (bench.entriesAt handle).map (·.1)
    | _ => False
  | _ => False

theorem occursIn_eq_true_iff {part whole : List Char} :
    occursIn part whole = true ↔ part <:+: whole := by
  induction whole with
  | nil => simp [occursIn]
  | cons c rest ih => simp [occursIn, ih, List.infix_cons_iff]

/-- Nothing but a text equals a text. -/
theorem exists_alike_text (bench : Workbench) (word : String) (other : Datum) :
    ∃ same, bench.alike other (.text word) = .ok same ∧ (same = true ↔ .text word = other) := by
  cases other with
  | text value => exact ⟨value == word, rfl, by rw [beq_iff_eq, Datum.text.injEq, eq_comm]⟩
  | _ => exact ⟨false, rfl, by simp⟩

theorem exists_anyAlike_text (bench : Workbench) (word : String) (items : List Datum) :
    ∃ found, anyAlike bench.alike (.text word) items = .ok found ∧
      (found = true ↔ .text word ∈ items) := by
  induction items with
  | nil => exact ⟨false, rfl, by simp⟩
  | cons other rest ih =>
    obtain ⟨found, hfound, hmem⟩ := ih
    obtain ⟨same, hsame, heq⟩ := bench.exists_alike_text word other
    rw [anyAlike, hsame, hfound]
    refine ⟨same || found, ?_, by rw [Bool.or_eq_true, heq, hmem, List.mem_cons]⟩
    cases same <;> rfl

/-- A collection tells of every word whether it has it. -/
theorem exists_contains_text (bench : Workbench) (word : String) {collection : Datum}
    (hcollection : collection.isCollection = true) :
    ∃ found, bench.contains collection (.text word) = .ok found ∧
      (found = true ↔ bench.HasWord word collection) := by
  cases collection with
  | text value => exact ⟨_, rfl, occursIn_eq_true_iff⟩
  | tuple items => exact bench.exists_anyAlike_text word items
  | object handle =>
    obtain ⟨sort, index⟩ := handle
    cases sort with
    | list => exact bench.exists_anyAlike_text word (bench.itemsAt ⟨.list, index⟩)
    | set => exact bench.exists_anyAlike_text word (bench.itemsAt ⟨.set, index⟩)
    | table =>
      obtain ⟨found, hfound, hmem⟩ := bench.exists_anyAlike_text word
        ((bench.entriesAt ⟨.table, index⟩).map fun entry ↦ .text entry.1)
      exact ⟨found, hfound, by simpa [HasWord] using hmem⟩
    | _ => cases hcollection
  | _ => cases hcollection

/-! ## Sets -/

/-- A set, with the items in it. -/
structure HoldsSet (bench : Workbench) (handle : Handle) (items : List Datum) : Prop where
  sort : handle.sort = .set
  content : bench.content handle = .items items
  -- Nothing was put in the place of what sets can do.
  unreplaced : bench.stored? handle "add" = none

theorem HoldsSet.itemsAt (hset : bench.HoldsSet handle items) : bench.itemsAt handle = items := by
  rw [Workbench.itemsAt, hset.content]

theorem HoldsSet.set? (hset : bench.HoldsSet handle items) :
    bench.set? (.object handle) = some items := by
  rw [Workbench.set?, if_pos hset.sort, hset.itemsAt]

/-- The workbench with other items in a list or a set. -/
def withItems (bench : Workbench) (handle : Handle) (items : List Datum) : Workbench :=
  { bench with
    things := bench.things.modify handle.index ({ · with content := .items items }) }

theorem HoldsSet.withItems (hset : bench.HoldsSet handle items) (more : List Datum) :
    (bench.withItems handle more).HoldsSet handle more := by
  obtain ⟨hsort, hcontent, hunreplaced⟩ := hset
  unfold Workbench.content at hcontent
  unfold Workbench.stored? Workbench.members at hunreplaced
  cases hthing : bench.things[handle.index]? with
  | none => simp [hthing] at hcontent
  | some thing =>
    rw [hthing] at hunreplaced
    refine ⟨hsort, ?_, ?_⟩
    · simp [Workbench.content, Workbench.withItems, Array.getElem?_modify, hthing]
    · simpa [Workbench.stored?, Workbench.members, Workbench.withItems, Array.getElem?_modify,
        hthing] using hunreplaced

end Workbench

/-! ## Calls -/

namespace Session

open Workbench (HoldsSet)

variable {bench : Workbench} {used : Handle} {items : List Datum} {reserved : Datum}

theorem outcome_addItem_of_new (hset : bench.HoldsSet used items) {word : String}
    (hnew : .text word ∉ items) :
    outcome (addItem (.object used) (.text word)) bench =
      (.ok (), bench.withItems used (items ++ [Datum.text word])) := by
  have hable : outcome (able (.object used) .set "add") bench = (.ok used, bench) :=
    outcome_able hset.sort rfl hset.unreplaced
  have hkey : bench.hasKey (.text word) items = .ok false := by
    obtain ⟨found, hfound, hmem⟩ := bench.exists_anyAlike_text word items
    have hnone : found = false := Bool.eq_false_iff.2 (mt hmem.1 hnew)
    rw [← hnone]
    exact hfound
  simp only [addItem, outcome_bind, hable, outcome_get, outcome_look, hset.itemsAt, hkey]
  rw [← hset.itemsAt]
  rfl

theorem outcome_mangle (name stem : String) (hset : bench.HoldsSet used items) {found : Bool}
    (hfound : bench.contains reserved (.text (stem ++ Symbol.identifier name)) = .ok found) :
    let base := Symbol.unreserved found (stem ++ Symbol.identifier name)
    let symbol := Symbol.fresh base (items.filterMap Datum.text?)
    outcome (mangle (.text name) (.text stem) (.object used) reserved) bench =
      (.ok symbol, bench.withItems used (items ++ [Datum.text symbol])) := by
  intro base symbol
  have hstem : outcome (shown (.text stem)) bench = (.ok stem, bench) := rfl
  have hnew : .text symbol ∉ items := by
    rw [← Datum.mem_filterMap_text?]
    exact Symbol.fresh_not_mem base _
  simp only [mangle, identifier, nameText, contains, outcome_bind, outcome_pure, outcome_look,
    outcome_get, hstem, hfound, hset.set?]
  rw [outcome_addItem_of_new hset hnew]

/-- A symbol is found for every name beside every set.  It is the name itself, behind a mark if the
name is reserved, or else its form with the least free number, which takes at most one try more than
there are items in the set.  It is new to the set, which is extended by it and by nothing else.
Tables of symbols are made up of the same symbols. -/
theorem mangle_finds_least_free (name stem : String) (hset : bench.HoldsSet used items)
    (hreserved : reserved.isCollection = true) :
    let plain := stem ++ Symbol.identifier name
    ∃ base symbol,
      (bench.HasWord plain reserved ∧ base = "sw_" ++ plain ∨
        ¬bench.HasWord plain reserved ∧ base = plain) ∧
      outcome (mangle (.text name) (.text stem) (.object used) reserved) bench =
        (.ok symbol, bench.withItems used (items ++ [Datum.text symbol])) ∧
      HoldsSet (bench.withItems used (items ++ [Datum.text symbol])) used
        (items ++ [Datum.text symbol]) ∧
      .text symbol ∉ items ∧
      (.text base ∉ items → symbol = base) ∧
      (.text base ∈ items → ∃ n tries, symbol = Symbol.numbered base n ∧ 2 ≤ n ∧
        (∀ m, 2 ≤ m → m < n → .text (Symbol.numbered base m) ∈ items) ∧
        Symbol.Search (fun other ↦ .text other ∈ items) base 2 tries symbol ∧
        tries ≤ items.length + 1) ∧
      ∀ words, (∀ word, word ∈ words ↔ bench.HasWord word reserved) →
        Symbol.mangle name stem (items.filterMap Datum.text?) words = symbol := by
  intro plain
  obtain ⟨found, hfound, hword⟩ := bench.exists_contains_text plain hreserved
  refine ⟨Symbol.unreserved found plain,
    Symbol.fresh (Symbol.unreserved found plain) (items.filterMap Datum.text?), ?_,
    outcome_mangle name stem hset hfound, hset.withItems _, ?_, fun hfree ↦ ?_, fun htaken ↦ ?_,
    fun words hwords ↦ ?_⟩
  · cases found with
    | true => exact .inl ⟨hword.1 rfl, rfl⟩
    | false => exact .inr ⟨fun hhas ↦ by simpa using hword.2 hhas, rfl⟩
  · rw [← Datum.mem_filterMap_text?]
    exact Symbol.fresh_not_mem _ _
  · rw [← Datum.mem_filterMap_text?] at hfree
    exact if_neg hfree
  · rw [← Datum.mem_filterMap_text?] at htaken
    -- Items that are no texts are never met, so they only leave room in the bound.
    have hlength : (items.filterMap Datum.text?).length ≤ items.length :=
      List.length_filterMap_le _ _
    obtain ⟨n, tries, hsymbol, hlow, hbefore, hsearch, hbound⟩ :=
      Symbol.exists_fresh_eq_numbered htaken
    simp only [Datum.mem_filterMap_text?] at hbefore hsearch
    exact ⟨n, tries, hsymbol, hlow, hbefore, hsearch, by omega⟩
  · have hdecided : decide (plain ∈ words) = found := by
      rw [Bool.eq_iff_iff, decide_eq_true_iff, hwords, hword]
    rw [← hdecided]
    rfl

end Session

/-- Names that look like symbols of one name, and an item that is no name. -/
def Datum.lookalikes : List Datum :=
  [.text "sw_and_eq", .text "sw_and_eq_2", .nothing, .text "sw_and_eq_4"]

def Workbench.withLookalikes : Workbench where
  things := #[{ sort := .set, content := .items Datum.lookalikes }]

/-- A reserved word whose marked form is taken, also with the first number, gets the second one. -/
theorem Session.lookalikes_passed_over :
    Workbench.withLookalikes.HoldsSet ⟨.set, 0⟩ Datum.lookalikes ∧
    (Datum.tuple [.text "and_eq"]).isCollection = true ∧
    outcome (mangle (.text "and-eq") (.text "") (.object ⟨.set, 0⟩) (.tuple [.text "and_eq"]))
        Workbench.withLookalikes =
      (.ok "sw_and_eq_3", Workbench.withLookalikes.withItems ⟨.set, 0⟩
        (Datum.lookalikes ++ [Datum.text "sw_and_eq_3"])) ∧
    ∃ tries ≤ 5, Symbol.Search (fun other ↦ .text other ∈ Datum.lookalikes) "sw_and_eq" 2 tries
      "sw_and_eq_3" := by
  have hset : Workbench.withLookalikes.HoldsSet ⟨.set, 0⟩ Datum.lookalikes := ⟨rfl, rfl, rfl⟩
  have hreserved : (Datum.tuple [.text "and_eq"]).isCollection = true := rfl
  have hplain : "" ++ Symbol.identifier "and-eq" = "and_eq" := by decide +kernel
  have hsecond : Symbol.numbered "sw_and_eq" 2 = "sw_and_eq_2" := by decide +kernel
  have hthird : Symbol.numbered "sw_and_eq" 3 = "sw_and_eq_3" := by decide +kernel
  obtain ⟨base, symbol, hbase, hrun, -, hfree, -, hnumbered, -⟩ :=
    mangle_finds_least_free "and-eq" "" hset hreserved
  rw [hplain] at hbase
  obtain rfl : base = "sw_and_eq" := by
    rcases hbase with ⟨-, rfl⟩ | ⟨hplain, -⟩
    · decide
    · exact absurd List.mem_cons_self hplain
  obtain ⟨n, tries, rfl, hlow, hbefore, hsearch, hbound⟩ := hnumbered List.mem_cons_self
  have hnotSecond : n ≠ 2 := by
    rintro rfl
    rw [hsecond] at hfree
    exact hfree (by simp [Datum.lookalikes])
  have hnotLater : ¬3 < n := by
    intro hlater
    have htaken := hbefore 3 (by omega) hlater
    rw [hthird] at htaken
    simp [Datum.lookalikes] at htaken
  obtain rfl : n = 3 := by omega
  rw [hthird] at hrun hsearch
  exact ⟨hset, hreserved, hrun, tries, hbound, hsearch⟩

end StateSketch
