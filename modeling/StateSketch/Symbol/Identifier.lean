/-!
# Identifiers

Any name is made into an identifier of the sketch language by writing an underscore for every
character that an identifier may not hold, and one in front of a leading digit.
-/

namespace StateSketch.Symbol

def isWordChar (c : Char) : Bool :=
  c.isAlphanum || c == '_'

def wordChar (c : Char) : Char :=
  if isWordChar c then c else '_'

def identifierChars : List Char → List Char
  | [] => ['_']
  | c :: rest =>
    let word := (c :: rest).map wordChar
    if c.isDigit then '_' :: word else word

def identifier (name : String) : String :=
  String.ofList (identifierChars name.toList)

end StateSketch.Symbol
