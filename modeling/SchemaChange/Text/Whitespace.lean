/-!
White space is what the Unicode property White_Space names: it separates the words of a text and may
surround a number. It includes the no-break spaces and the line separators, and leaves out the zero
width characters.
-/
namespace SchemaChange.Text

def isSpace (c : Char) : Bool :=
  let n := c.toNat
  (0x09 ≤ n && n ≤ 0x0D) || n == 0x20 || n == 0x85 || n == 0xA0 || n == 0x1680 ||
    (0x2000 ≤ n && n ≤ 0x200A) || n == 0x2028 || n == 0x2029 || n == 0x202F || n == 0x205F ||
    n == 0x3000

def trimLeft (s : List Char) : List Char := s.dropWhile isSpace

def trim (s : List Char) : List Char := (trimLeft (trimLeft s).reverse).reverse

/-- The maximal runs of characters that are not white space. -/
def words (s : List Char) : List (List Char) :=
  (s.splitOnP isSpace).filter fun w => !w.isEmpty

@[simp] theorem trimLeft_nil : trimLeft [] = [] := rfl

theorem trimLeft_cons_of_isSpace {c : Char} (h : isSpace c = true) (s : List Char) :
    trimLeft (c :: s) = trimLeft s := by
  simp [trimLeft, h]

end SchemaChange.Text
