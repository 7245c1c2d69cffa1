/-!
# Lines of a text
-/

namespace StateSketch.Text

/-- Characters that end a line; a carriage return followed by a line feed ends only one. -/
def isLineBreak (c : Char) : Bool :=
  let code := c.toNat
  (0x0A ≤ code && code ≤ 0x0D) || (0x1C ≤ code && code ≤ 0x1E) || code == 0x85 || code == 0x2028 ||
    code == 0x2029

/-- The number of lines; what follows the last line break counts only if it is not empty. -/
def countLines : List Char → Nat
  | [] => 0
  | '\r' :: '\n' :: rest => 1 + countLines rest
  | c :: rest => if isLineBreak c then 1 + countLines rest else inLine rest
where
  /-- Counts the lines of a text that continues a line already begun. -/
  inLine : List Char → Nat
    | [] => 1
    | '\r' :: '\n' :: rest => 1 + countLines rest
    | c :: rest => if isLineBreak c then 1 + countLines rest else inLine rest

/-- Puts a line feed between every two lines. -/
def joinLines (lines : List String) : String :=
  "\n".intercalate lines

def countLineFeeds (text : String) : Nat :=
  text.toList.count '\n'

end StateSketch.Text
