/-!
# Reserved words

Identifiers that no resource may have as its symbol.
-/

namespace StateSketch.Symbol

/-- The names that a sketch defines itself. -/
def sketchNames : List String :=
  ["time", "debounce", "guard", "setup", "loop", "blinkError", "ERROR_LED_PIN"]

/-- Names of the board's library. -/
def boardNames : List String :=
  ["millis", "delay", "pinMode", "digitalRead", "digitalWrite", "HIGH", "LOW", "INPUT", "OUTPUT",
    "INPUT_PULLUP", "LED_BUILTIN", "A0", "A1", "A2", "A3", "A4", "A5", "A6", "A7", "main",
    "analogRead", "analogWrite", "delayMicroseconds", "Serial", "boolean", "byte", "word",
    "String"]

def keywords : List String :=
  ["asm", "auto", "bool", "break", "case", "catch", "char", "class", "const", "constexpr",
    "continue", "default", "delete", "do", "double", "else", "enum", "explicit", "extern",
    "false", "float", "for", "friend", "goto", "if", "inline", "int", "long", "mutable",
    "namespace", "new", "nullptr", "operator", "private", "protected", "public", "register",
    "return", "short", "signed", "sizeof", "static", "struct", "switch", "template", "this",
    "throw", "true", "try", "typedef", "typename", "union", "unsigned", "using", "virtual",
    "void", "volatile", "wchar_t", "while"]

/-- Keywords that spell an operator. -/
def operatorWords : List String :=
  ["and", "and_eq", "bitand", "bitor", "compl", "not", "not_eq", "or", "or_eq", "xor", "xor_eq"]

def reservedWords : List String :=
  sketchNames ++ boardNames ++ keywords ++ operatorWords

end StateSketch.Symbol
