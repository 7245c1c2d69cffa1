import StateSketch.Terminal.Alphanumeric
import StateSketch.Terminal.CellWidth
import StateSketch.Terminal.Emoji
import StateSketch.Terminal.Parameter.Reading
import StateSketch.Terminal.TagStyle

/-!
# Markup

Printed text may hold style tags in square brackets and names of symbols between colons.  A tag
starts with a lower-case letter, a slash, a hash or an at sign and holds no further opening bracket;
with an odd number of backslashes in front it is plain text.  A closing tag, which starts with a
slash, has to close one that is open.  None of the styles shows in the text itself.  A tag that
starts with an at sign may have parameters, which are read when the tag is closed.
-/

namespace StateSketch.Terminal

/-! ## Parts -/

/-- A part of a marked-up text. -/
inductive MarkupPart where
  | plain (text : List Char)
  | opening (name : String) (parameters : Option String)
  /-- The name is empty if the last open tag is meant, whichever it is. -/
  | closing (name tag : String) (position : Nat)
deriving DecidableEq

def startsTag (c : Char) : Bool :=
  c.isLower || c == '/' || c == '#' || c == '@'

/-- The characters of a class up to an ending, and what follows the ending. -/
def upTo? (inside : Char → Bool) (ending : Char) (text : List Char) :
    Option (List Char × List Char) :=
  match text.dropWhile inside with
  | [] => none
  | c :: after => if c = ending then some (text.takeWhile inside, after) else none

theorem length_lt_of_upTo?_eq_some {inside : Char → Bool} {ending : Char}
    {text part after : List Char} (h : upTo? inside ending text = some (part, after)) :
    after.length < text.length := by
  have hle := (List.dropWhile_sublist inside (l := text)).length_le
  unfold upTo? at h
  split at h
  · simp at h
  · next c tail heq =>
    split at h
    · simp only [Option.some.injEq, Prod.mk.injEq] at h
      obtain ⟨-, rfl⟩ := h
      rw [heq, List.length_cons] at hle
      omega
    · simp at h

/-- What stands in the tag that starts here, if one does, and what follows the tag. -/
def readTag? (text : List Char) : Option (List Char × List Char) :=
  if text.head?.any startsTag then upTo? (fun c ↦ c != ']' && c != '[') ']' text else none

theorem length_lt_of_readTag?_eq_some {text tag after : List Char}
    (h : readTag? text = some (tag, after)) : after.length < text.length := by
  unfold readTag? at h
  split at h
  · exact length_lt_of_upTo?_eq_some h
  · simp at h

/-- The part that a tag is.  What follows an equals sign is no part of its name. -/
def tagPart (tag : List Char) (position : Nat) : MarkupPart :=
  match tag.takeWhile (· != '='), tag.dropWhile (· != '=') with
  | '/' :: name, _ =>
    .closing (Text.trim (String.ofList name)) (String.ofList ('[' :: tag ++ [']'])) position
  | name, [] => .opening (String.ofList name) none
  | name, _ :: parameters => .opening (String.ofList name) (some (String.ofList parameters))

def backslashes (count : Nat) : List Char :=
  List.replicate count '\\'

/-- The parts of a text of which `pending` and then so many backslashes have been read already;
`position` is the place of its next character. -/
def markupParts (position : Nat) (pending : List Char) (slashes : Nat) :
    List Char → List MarkupPart
  | [] => [.plain (pending ++ backslashes slashes)]
  | c :: rest =>
    if c = '\\' then markupParts (position + 1) pending (slashes + 1) rest
    else if c = '[' then
      match h : readTag? rest with
      | some (tag, after) =>
        have := length_lt_of_readTag?_eq_some h
        let part :=
          if slashes % 2 = 1 then .plain ('[' :: tag ++ [']']) else tagPart tag position
        .plain pending :: .plain (backslashes (slashes / 2)) :: part ::
          markupParts (position + tag.length + 2) [] 0 after
      | none => markupParts (position + 1) (pending ++ backslashes slashes ++ [c]) 0 rest
    else markupParts (position + 1) (pending ++ backslashes slashes ++ [c]) 0 rest
termination_by text => text.length

/-! ## Plain text -/

/-- A backslash in front of a bracket is left out. -/
def dropEscapes : List Char → List Char
  | '\\' :: '[' :: rest => '[' :: dropEscapes rest
  | c :: rest => c :: dropEscapes rest
  | [] => []

/-- The name that ends at the next colon, if no blank comes before it, and what follows. -/
def readName? (text : List Char) : Option (List Char × List Char) :=
  upTo? (fun c ↦ c != ':' && !Text.isBlank c) ':' text

/-- The ends of names that ask for one of the two ways to draw a symbol, with the character that
does so. -/
def symbolVariants : List (List Char × Char) :=
  [("-emoji".toList, Char.ofNat 0xFE0F), ("-text".toList, Char.ofNat 0xFE0E)]

/-- The symbol that a name between colons stands for. -/
def symbol? (name : List Char) : Option (List Char) :=
  let find? (name : List Char) : Option (List Char) :=
    (emoji? (lower (String.ofList name))).map String.toList
  match symbolVariants.find? (·.1.isSuffixOf name) with
  | some (ending, mark) => (find? (name.take (name.length - ending.length))).map (· ++ [mark])
  | none => find? name

/-- Puts symbols in the place of their names. -/
def replaceNames : List Char → List Char
  | [] => []
  | c :: rest =>
    if c = ':' then
      match h : readName? rest with
      | some (name, after) =>
        have := length_lt_of_upTo?_eq_some h
        (symbol? name).getD (':' :: name ++ [':']) ++ replaceNames after
      | none => c :: replaceNames rest
    else c :: replaceNames rest
termination_by text => text.length

/-- The bell, the backspace, the vertical tab, the form feed and the carriage return are not
printed. -/
def isDropped (c : Char) : Bool :=
  c.toNat ∈ [0x07, 0x08, 0x0B, 0x0C, 0x0D]

def plainText (text : List Char) : List Char :=
  (replaceNames (dropEscapes text)).filter (!isDropped ·)

/-! ## Open tags -/

/-- A tag that is open: its normal form and the place where its text begins. -/
structure OpenTag where
  name : String
  parameters : Option String
  start : Nat

/-- A style and the stretch of text that has it. -/
structure Span where
  start : Nat
  stop : Nat
  style : String

/-- What the parameters of a tag say once a name in front of round brackets is left out; a name on
its own has no parameters. -/
def callParameters (text : List Char) : List Char :=
  let isName (c : Char) : Bool := isAlphanumeric c || c == '_' || c == '.'
  match text.dropWhile isName with
  | [] => ['(', ')']
  | '(' :: rest =>
    if rest.getLast? == some ')' && !rest.contains '\n' then '(' :: rest else text
  | _ => text

/-- Makes sure that the parameters of a tag can be read. -/
def checkParameters (parameters : String) : Except Fault Unit :=
  let call := callParameters (Text.trimBy Text.isBlank parameters.toList)
  let shown := Text.quote parameters
  match Parameter.checkText (call.dropWhile fun c ↦ c == ' ' || c == '\t') with
  | .ok () => .ok ()
  | .error (.unread reason) =>
    .error (.parameters (Text.quote (String.ofList call) ++ " in " ++ shown) reason)
  | .error (.unfit reason) => .error (.parameters shown reason)

namespace OpenTag

/-- The style that the tag gives to its text. -/
def style (tag : OpenTag) : String :=
  match tag.parameters with
  | some parameters => tag.name ++ " " ++ parameters
  | none => tag.name

def isCall (tag : OpenTag) : Bool :=
  tag.name.startsWith "@"

def span (tag : OpenTag) (stop : Nat) : Span where
  start := tag.start
  stop := stop
  style := tag.style

/-- Closes the tag, which gives a style to the text unless it stands for a call. -/
def close (tag : OpenTag) (stop : Nat) : Except Fault (List Span) :=
  if tag.isCall then do
    if let some parameters := tag.parameters then
      if !parameters.isEmpty then checkParameters parameters
    return []
  else .ok [tag.span stop]

end OpenTag

/-! ## Printing -/

/-- The text of the parts and the styles in it, given the text before them and the open tags, the
last one first. -/
def textOfParts (text : List Char) (openTags : List OpenTag) :
    List MarkupPart → Except Fault (List Char × List Span)
  | [] => .ok (text, openTags.map (·.span text.length))
  | .plain more :: rest => textOfParts (text ++ plainText more) openTags rest
  | .opening name parameters :: rest => do
    let tag : OpenTag :=
      { name := ← normalTag name, parameters := parameters, start := text.length }
    textOfParts text (tag :: openTags) rest
  | .closing name tag position :: rest => do
    if name.isEmpty then
      match openTags with
      | [] => .error (.nothingToClose position)
      | last :: others => closed last others rest
    else
      let name ← normalTag name
      match openTags.find? (·.name == name) with
      | none => .error (.unmatchedTag tag position)
      | some last => closed last (openTags.eraseP (·.name == name)) rest
where
  /-- Goes on after a tag has been closed. -/
  closed (tag : OpenTag) (others : List OpenTag) (rest : List MarkupPart) :
      Except Fault (List Char × List Span) := do
    let spans ← tag.close text.length
    let (text, more) ← textOfParts text others rest
    return (text, spans ++ more)

/-- Makes sure that the styles of a text can be read.  The later of two that start at one place is
read first, and one without text is passed over if the text is cut into pieces. -/
def checkSpans (text : List Char) (spans : List Span) : Except Fault Unit :=
  let isCut := text.contains '\n' || text.contains '\t'
  let kept := spans.reverse.filter fun span ↦ span.start < span.stop || !isCut
  (kept.mergeSort fun a b ↦ a.start ≤ b.start).forM fun span ↦ discard <| style? span.style

/-- A marked-up text as it is printed. -/
def printed (markup : String) : Except Fault String := do
  let (text, spans) ← textOfParts [] [] (markupParts 0 [] 0 markup.toList)
  checkSpans text spans
  return String.ofList (expandTabs 0 text)

end StateSketch.Terminal
