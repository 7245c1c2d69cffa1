/-!
# Blank characters

White space by the Unicode property, together with the four information separators U+001C to
U+001F.
-/

namespace StateSketch.Text

def isBlank (c : Char) : Bool :=
  let code := c.toNat
  (0x09 ≤ code && code ≤ 0x0D) || (0x1C ≤ code && code ≤ 0x20) || code == 0x85 || code == 0xA0 ||
    code == 0x1680 || (0x2000 ≤ code && code ≤ 0x200A) || code == 0x2028 || code == 0x2029 ||
    code == 0x202F || code == 0x205F || code == 0x3000

/-- Removes the characters of the class `blank` from both ends. -/
def trimBy (blank : Char → Bool) (text : List Char) : List Char :=
  ((text.dropWhile blank).reverse.dropWhile blank).reverse

def trim (text : String) : String :=
  String.ofList (trimBy isBlank text.toList)

end StateSketch.Text
