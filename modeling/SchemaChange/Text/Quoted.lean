/-!
Quoted names and string literals. A text stands between two quotation marks, and a mark inside it is
written twice. Reading goes to the first mark that is not doubled, so a quoted text ends itself:
reading accepts exactly what writing produces, whatever follows it.
-/
namespace SchemaChange.Text

namespace Quoted

def double (mark : Char) : List Char → List Char
  | [] => []
  | c :: rest => if c = mark then mark :: mark :: double mark rest else c :: double mark rest

def encode (mark : Char) (s : List Char) : List Char := mark :: (double mark s ++ [mark])

/-- The text up to the first mark that is not doubled, and what stands behind that mark. -/
def readBody (mark : Char) : List Char → Option (List Char × List Char)
  | [] => none
  | [c] => if c = mark then some ([], []) else none
  | c :: d :: rest =>
    if c = mark then
      if d = mark then (readBody mark rest).map fun (s, after) => (mark :: s, after)
      else some ([], d :: rest)
    else (readBody mark (d :: rest)).map fun (s, after) => (c :: s, after)

def read (mark : Char) : List Char → Option (List Char × List Char)
  | [] => none
  | c :: rest => if c = mark then readBody mark rest else none

/-- The text of one quoted name with nothing behind it. -/
def decode (mark : Char) (s : List Char) : Option (List Char) :=
  match read mark s with
  | some (name, []) => some name
  | _ => none

end Quoted

/-- A name between two marks, with every mark in it doubled. -/
def quote (mark : Char) (name : String) : String := String.ofList (Quoted.encode mark name.toList)

def unquote (mark : Char) (quoted : String) : Option String :=
  (Quoted.decode mark quoted.toList).map String.ofList

/-- The string literal that stands for a text. -/
def literal (value : String) : String := quote '\'' value

namespace Quoted

theorem read_encode (mark : Char) (s rest : List Char) (h : rest.head? ≠ some mark) :
    read mark (encode mark s ++ rest) = some (s, rest) := by
  simp only [encode, List.cons_append, read, ↓reduceIte, List.append_assoc, List.nil_append]
  induction s with
  | nil =>
    cases rest with
    | nil => simp [double, readBody]
    | cons d rest =>
      have hd : d ≠ mark := by simpa using h
      simp [double, readBody, hd]
  | cons c s ih =>
    by_cases hc : c = mark
    · subst hc
      simp [double, readBody, ih]
    · rw [double, if_neg hc, List.cons_append]
      generalize hbody : double mark s ++ mark :: rest = body at ih
      cases body with
      | nil => simp at hbody
      | cons d body => simp [readBody, hc, ih]

theorem decode_encode (mark : Char) (s : List Char) : decode mark (encode mark s) = some s := by
  have h := read_encode mark s [] (by simp)
  simp only [List.append_nil] at h
  simp [decode, h]

end Quoted

end SchemaChange.Text
