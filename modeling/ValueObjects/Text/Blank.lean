import ValueObjects.Text.CharSet

namespace ValueObjects.Text

/-- The characters with the Unicode property `White_Space`. -/
def whiteSpace : CharSet := ⟨[
  9, 14, 32, 33, 133, 134, 160, 161, 5760, 5761, 8192, 8203, 8232, 8234, 8239, 8240, 8287, 8288,
  12288, 12289]⟩

def isBlank (c : Char) : Bool :=
  whiteSpace.contains c

def trimmed (text : List Char) : List Char :=
  ((text.dropWhile isBlank).reverse.dropWhile isBlank).reverse

end ValueObjects.Text
