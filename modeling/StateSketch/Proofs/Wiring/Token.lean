import StateSketch.Proofs.SymbolTable

/-!
# Words of the sketch language

A line of a sketch is cut where two neighbouring characters do not run on: letters, digits and
underscores run on, characters of operators run on, and every other character stands alone.  Texts
that meet at such a place are cut each by itself.
-/

namespace StateSketch.Wiring

open StateSketch.Symbol (isWordChar IsIdentifier)

inductive BaseType where
  | int
  | long
  | boolean
deriving DecidableEq

inductive Keyword where
  | type (base : BaseType)
  | void
  | ifWord
  | elseWord
  | forWord
deriving DecidableEq

/-- Operators between two operands. -/
inductive Operator where
  | or
  | and
  | equal
  | less
  | greater
  | minus
deriving DecidableEq

inductive Mark where
  | openParen
  | closeParen
  | openBrace
  | closeBrace
  | comma
  | semicolon
  | assign
  | increment
  | hash
deriving DecidableEq

inductive Token where
  | name (text : String)
  | number (value : Nat)
  | keyword (word : Keyword)
  | operator (sign : Operator)
  | mark (sign : Mark)
  /-- A line that defines a constant. -/
  | define (name : String) (value : Nat)
  /-- Whatever sketches do not hold. -/
  | stray (lexeme : List Char)
deriving DecidableEq

/-! ## Lexemes -/

def isBlank (c : Char) : Bool :=
  c == ' ' || c == '\t'

def isOperatorChar (c : Char) : Bool :=
  "=&|+-<>".toList.contains c

/-- Whether two neighbouring characters belong to one lexeme. -/
def runsOn (c d : Char) : Bool :=
  isWordChar c && isWordChar d || isOperatorChar c && isOperatorChar d

def lexemes : List Char → List (List Char)
  | [] => []
  | c :: rest =>
    if isBlank c then lexemes rest
    else if rest.head?.any (runsOn c) then (lexemes rest).modifyHead (c :: ·)
    else [c] :: lexemes rest

theorem not_isBlank_of_runsOn {c d : Char} (hruns : runsOn c d = true) : isBlank d = false := by
  cases hblank : isBlank d with
  | false => rfl
  | true =>
    obtain rfl | rfl : d = ' ' ∨ d = '\t' := by simpa [isBlank] using hblank
    · have hspace : isWordChar ' ' = false ∧ isOperatorChar ' ' = false := by decide
      simp [runsOn, hspace] at hruns
    · have htab : isWordChar '\t' = false ∧ isOperatorChar '\t' = false := by decide
      simp [runsOn, htab] at hruns

theorem lexemes_ne_nil {c : Char} {rest : List Char} (hblank : isBlank c = false) :
    lexemes (c :: rest) ≠ [] := by
  induction rest generalizing c with
  | nil => simp [lexemes, hblank]
  | cons d rest ih =>
    rw [lexemes, hblank]
    by_cases hruns : runsOn c d = true
    · obtain ⟨first, others, hlexemes⟩ :=
        List.exists_cons_of_ne_nil (ih (not_isBlank_of_runsOn hruns))
      simp [hruns, hlexemes]
    · simp [hruns]

/-- Two texts that do not run on where they meet. -/
def Apart (left right : List Char) : Prop :=
  ∀ c ∈ left.getLast?, ∀ d ∈ right.head?, runsOn c d = false

theorem lexemes_append {left right : List Char} (hapart : Apart left right) :
    lexemes (left ++ right) = lexemes left ++ lexemes right := by
  induction left with
  | nil => rfl
  | cons c left ih =>
    cases left with
    | nil =>
      have hcut : right.head?.any (runsOn c) = false := by
        cases right with
        | nil => rfl
        | cons d right => exact hapart c rfl d rfl
      cases hblank : isBlank c <;> simp [lexemes, hblank, hcut]
    | cons d left =>
      have hrest : lexemes (d :: (left ++ right)) = lexemes (d :: left) ++ lexemes right :=
        ih fun e he ↦ hapart e (by simpa using he)
      cases hblank : isBlank c with
      | true => simpa [lexemes, hblank] using hrest
      | false =>
        by_cases hruns : runsOn c d = true
        · have hsome : lexemes (d :: left) ≠ [] := lexemes_ne_nil (not_isBlank_of_runsOn hruns)
          obtain ⟨first, others, hlexemes⟩ := List.exists_cons_of_ne_nil hsome
          rw [hlexemes] at hrest
          rw [List.cons_append, lexemes, lexemes.eq_2 c (d :: left)]
          simp [hblank, hruns, hrest, hlexemes]
        · rw [List.cons_append, lexemes, lexemes.eq_2 c (d :: left)]
          simp [hblank, hruns, hrest]

theorem lexemes_word {word : List Char} (hword : ∀ c ∈ word, isWordChar c = true)
    (hsome : word ≠ []) : lexemes word = [word] := by
  induction word with
  | nil => exact absurd rfl hsome
  | cons c rest ih =>
    have hc := hword c List.mem_cons_self
    have hblank : isBlank c = false := not_isBlank_of_runsOn (c := c) (by simp [runsOn, hc])
    cases rest with
    | nil => simp [lexemes, hblank]
    | cons d rest =>
      have hd := hword d (by simp)
      have hrest := ih (fun e he ↦ hword e (List.mem_cons_of_mem _ he)) (by simp)
      rw [lexemes, hrest]
      simp [hblank, runsOn, hc, hd]

/-! ## Tokens -/

namespace Token

/-- The lexemes that have a meaning of their own. -/
def symbols : List (String × Token) :=
  [("int", .keyword (.type .int)), ("long", .keyword (.type .long)),
    ("boolean", .keyword (.type .boolean)), ("void", .keyword .void), ("if", .keyword .ifWord),
    ("else", .keyword .elseWord), ("for", .keyword .forWord), ("||", .operator .or),
    ("&&", .operator .and), ("==", .operator .equal), ("<", .operator .less),
    (">", .operator .greater), ("-", .operator .minus), ("(", .mark .openParen),
    (")", .mark .closeParen), ("\x7b", .mark .openBrace), ("\x7d", .mark .closeBrace),
    (",", .mark .comma), (";", .mark .semicolon), ("=", .mark .assign), ("++", .mark .increment),
    ("#", .mark .hash)]

/-- Numbers are written in the decimal system without leading zeros. -/
def ofLexeme (lexeme : List Char) : Token :=
  match symbols.lookup (String.ofList lexeme) with
  | some token => token
  | none =>
    let value := Nat.ofDigitChars 10 lexeme 0
    if Nat.toDigits 10 value = lexeme then .number value
    else if lexeme.all isWordChar && !lexeme.head?.any (·.isDigit) then .name (String.ofList lexeme)
    else .stray lexeme

end Token

def tokens (text : String) : List Token :=
  (lexemes text.toList).map .ofLexeme

/-- A line that defines a constant counts as one token. -/
def directive : List Token → List Token
  | [.mark .hash, .name word, .name name, .number value] =>
    if word = "define" then [.define name value]
    else [.mark .hash, .name word, .name name, .number value]
  | tokens => tokens

/-- An identifier that is no keyword. -/
structure IsName (text : String) : Prop extends IsIdentifier text where
  plain : Token.symbols.lookup text = none

/-- No number looks like an identifier. -/
theorem toDigits_ne_of_isIdentifier {text : String} (htext : IsIdentifier text) (n : Nat) :
    Nat.toDigits 10 n ≠ text.toList := by
  intro heq
  obtain ⟨first, rest, hfirst, hdigit⟩ := htext.head
  have hmem : first ∈ Nat.toDigits 10 n := by simp [heq, hfirst]
  simp [Nat.isDigit_of_mem_toDigits (by decide) (by decide) hmem] at hdigit

theorem tokens_name {text : String} (hname : IsName text) : tokens text = [.name text] := by
  obtain ⟨first, rest, hfirst, hdigit⟩ := hname.head
  have hlexemes : lexemes text.toList = [text.toList] :=
    lexemes_word hname.word (by simp [hfirst])
  have hword : text.toList.all isWordChar = true := List.all_eq_true.2 hname.word
  have hhead : text.toList.head?.any (·.isDigit) = false := by simp [hfirst, hdigit]
  rw [tokens, hlexemes, List.map_singleton, Token.ofLexeme, String.ofList_toList, hname.plain]
  simp [toDigits_ne_of_isIdentifier hname.toIsIdentifier, hword, hhead]

theorem toList_toString (n : Nat) : (toString n).toList = Nat.toDigits 10 n := by
  rw [Nat.toString_eq_repr, Nat.toList_repr]

theorem isDigit_head_symbols :
    ∀ entry ∈ Token.symbols, entry.1.toList.head?.all (·.isDigit) = false := by
  decide +kernel

theorem lookup_symbols_toString (n : Nat) : Token.symbols.lookup (toString n) = none := by
  refine List.lookup_eq_none_iff.2 fun entry hentry ↦ bne_iff_ne.2 fun heq ↦ ?_
  have hsymbol := isDigit_head_symbols entry hentry
  rw [← heq, toList_toString] at hsymbol
  cases hdigits : Nat.toDigits 10 n with
  | nil => exact absurd hdigits Nat.toDigits_ne_nil
  | cons first rest =>
    have hfirst : first ∈ Nat.toDigits 10 n := by simp [hdigits]
    simp [hdigits, Nat.isDigit_of_mem_toDigits (by decide) (by decide) hfirst] at hsymbol

theorem tokens_number (n : Nat) : tokens (toString n) = [.number n] := by
  have hlexemes : lexemes (toString n).toList = [(toString n).toList] :=
    lexemes_word (fun c hc ↦ Symbol.isWordChar_of_mem_toString hc)
      (toList_toString n ▸ Nat.toDigits_ne_nil)
  rw [tokens, hlexemes, List.map_singleton, Token.ofLexeme, String.ofList_toList,
    lookup_symbols_toString, toList_toString]
  simp [Nat.ofDigitChars_ten_toDigits]

/-! ## Spelling -/

/-- A text within a line, and the tokens that it is cut into. -/
structure Spells (text : String) (spelled : List Token) : Prop where
  single_line : '\n' ∉ text.toList
  tokens_eq : tokens text = spelled

instance (text : String) (spelled : List Token) : Decidable (Spells text spelled) :=
  decidable_of_iff ('\n' ∉ text.toList ∧ tokens text = spelled)
    ⟨fun h ↦ ⟨h.1, h.2⟩, fun h ↦ ⟨h.1, h.2⟩⟩

theorem not_mem_of_isWordChar {chars : List Char} (hword : ∀ c ∈ chars, isWordChar c = true) :
    '\n' ∉ chars := by
  intro hmem
  exact absurd (hword _ hmem) (by decide)

theorem spells_name {text : String} (hname : IsName text) : Spells text [.name text] :=
  ⟨not_mem_of_isWordChar hname.word, tokens_name hname⟩

theorem spells_number (n : Nat) : Spells (toString n) [.number n] :=
  ⟨not_mem_of_isWordChar fun _ hc ↦ Symbol.isWordChar_of_mem_toString hc, tokens_number n⟩

/-- Whether a character never runs on. -/
def standsAlone (c : Char) : Bool :=
  !isWordChar c && !isOperatorChar c

theorem not_runsOn_of_standsAlone {c d : Char} (halone : standsAlone c = true) :
    runsOn c d = false ∧ runsOn d c = false := by
  simp only [standsAlone, Bool.and_eq_true, Bool.not_eq_true'] at halone
  simp [runsOn, halone]

def startsAlone (text : String) : Bool :=
  text.toList.head?.all standsAlone

def endsAlone (text : String) : Bool :=
  text.toList.getLast?.all standsAlone

theorem endsAlone_append (left : String) {right : String} (hsome : right.toList ≠ [])
    (halone : endsAlone right = true) : endsAlone (left ++ right) = true := by
  have hlast := List.getLast?_eq_some_getLast hsome
  rw [endsAlone, hlast] at halone
  simpa [endsAlone, List.getLast?_append, hlast] using halone

namespace Spells

variable {left right : String} {first second : List Token}

/-- Texts that do not run on are spelled one after the other. -/
theorem append (hleft : Spells left first) (hright : Spells right second)
    (halone : endsAlone left = true ∨ startsAlone right = true) :
    Spells (left ++ right) (first ++ second) := by
  have hapart : Apart left.toList right.toList := by
    intro c hc d hd
    obtain hends | hstarts := halone
    · rw [endsAlone, Option.mem_def.1 hc] at hends
      exact (not_runsOn_of_standsAlone hends).1
    · rw [startsAlone, Option.mem_def.1 hd] at hstarts
      exact (not_runsOn_of_standsAlone hstarts).2
  constructor
  · rw [String.toList_append, List.mem_append]
    exact fun h ↦ h.elim hleft.single_line hright.single_line
  · rw [tokens, String.toList_append, lexemes_append hapart, List.map_append]
    exact congrArg₂ (· ++ ·) hleft.tokens_eq hright.tokens_eq

end Spells

end StateSketch.Wiring
