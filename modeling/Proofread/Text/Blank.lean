set_option autoImplicit false

namespace Proofread.Text

def isBlank (c : Char) : Bool :=
  let n := c.toNat
  (9 ≤ n && n ≤ 13) || n == 0x20 || n == 0x85 || n == 0xA0 || n == 0x1680 ||
    (0x2000 ≤ n && n ≤ 0x200A) || n == 0x2028 || n == 0x2029 || n == 0x202F || n == 0x205F ||
    n == 0x3000

def trimEnd (cs : List Char) : List Char :=
  (cs.reverse.dropWhile isBlank).reverse

@[simp] theorem trim_end_prefix (text : List Char) : trimEnd text <+: text := by
  rw [trimEnd, ← List.reverse_suffix, List.reverse_reverse]
  exact List.dropWhile_suffix isBlank

def trim (cs : List Char) : List Char :=
  trimEnd (cs.dropWhile isBlank)

/-- The maximal runs without white space, in order. The second argument holds the characters of
the run being read, last one first. -/
def wordsFrom : List Char → List Char → List (List Char)
  | [], run => if run.isEmpty then [] else [run.reverse]
  | c :: rest, run =>
      if isBlank c then
        if run.isEmpty then wordsFrom rest [] else run.reverse :: wordsFrom rest []
      else wordsFrom rest (c :: run)

def words (cs : List Char) : List (List Char) :=
  wordsFrom cs []

def firstWord? (s : String) : Option String :=
  (words s.toList).head?.map String.ofList

def trimString (s : String) : String :=
  String.ofList (trim s.toList)

def trimEndString (s : String) : String :=
  String.ofList (trimEnd s.toList)

end Proofread.Text
