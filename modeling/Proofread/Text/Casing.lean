import Proofread.Text.CaseTable

set_option autoImplicit false

namespace Proofread.Text

def CaseRun.image? (run : CaseRun) (n : Nat) : Option Nat :=
  if run.first ≤ n && n ≤ run.last && (n - run.first) % run.stride == 0 then
    some (run.image + (n - run.first))
  else none

def mapCase (runs : List CaseRun) (expansions : List (Nat × List Nat)) (c : Char) : List Char :=
  match expansions.lookup c.toNat with
  | some images => images.map Char.ofNat
  | none =>
      match runs.findSome? (·.image? c.toNat) with
      | some n => [Char.ofNat n]
      | none => [c]

def foldChar (c : Char) : List Char :=
  if c.toNat < 0x80 then [c.toLower] else mapCase foldRuns foldExpansions c

def foldCase (cs : List Char) : List Char :=
  cs.flatMap foldChar

def inRanges (ranges : List (Nat × Nat)) (c : Char) : Bool :=
  ranges.any fun range => range.1 ≤ c.toNat && c.toNat ≤ range.2

def meetsCased (cs : List Char) : Bool :=
  match cs.dropWhile (inRanges caseIgnorableRanges) with
  | c :: _ => inRanges casedRanges c
  | [] => false

def lowerChar (c : Char) : List Char :=
  if c.toNat < 0x80 then [c.toLower] else mapCase lowerRuns lowerExpansions c

def lowerFrom : List Char → List Char → List Char
  | [], _ => []
  | c :: rest, passed =>
      let lower :=
        if c.toNat == 0x3A3 then
          if meetsCased passed && !meetsCased rest then ['ς'] else ['σ']
        else lowerChar c
      lower ++ lowerFrom rest (c :: passed)

def lowerCase (cs : List Char) : List Char :=
  lowerFrom cs []

end Proofread.Text
