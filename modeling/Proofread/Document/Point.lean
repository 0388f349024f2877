set_option autoImplicit false

namespace Proofread

/-- Lines and columns count from one, the offset from zero. Columns count characters. -/
structure Point where
  line : Nat
  column : Nat
  offset : Nat
deriving DecidableEq, Repr, Inhabited

namespace Point

def le (a b : Point) : Bool :=
  a.line < b.line ||
    (a.line == b.line &&
      (a.column < b.column || (a.column == b.column && a.offset ≤ b.offset)))

@[grind =] theorem le_iff (p q : Point) :
    p.le q = true ↔ p.line < q.line ∨ (p.line = q.line ∧
      (p.column < q.column ∨ (p.column = q.column ∧ p.offset ≤ q.offset))) := by
  simp [le]

def notAfter (a b : Point) : Bool :=
  a.line < b.line || (a.line == b.line && a.column ≤ b.column)

@[grind =] theorem not_after_iff (p q : Point) :
    p.notAfter q = true ↔ p.line < q.line ∨ (p.line = q.line ∧ p.column ≤ q.column) := by
  simp [notAfter]

def before (a b : Point) : Bool :=
  a.line < b.line || (a.line == b.line && a.column < b.column)

@[grind =] theorem before_iff (p q : Point) :
    p.before q = true ↔ p.line < q.line ∨ (p.line = q.line ∧ p.column < q.column) := by
  simp [before]

def render (p : Point) : String :=
  toString p.line ++ ":" ++ toString p.column

end Point

structure Span where
  start : Point
  stop : Point
deriving DecidableEq, Repr, Inhabited

namespace Span

def contains (s : Span) (p : Point) : Bool :=
  s.start.notAfter p && p.before s.stop

def render (s : Span) : String :=
  s.start.render ++ "-" ++ s.stop.render

end Span

inductive Location where
  | point (place : Point)
  | range (span : Span)
deriving DecidableEq, Repr

namespace Location

def start : Location → Point
  | point p => p
  | range s => s.start

def stop? : Location → Option Point
  | point _ => none
  | range s => some s.stop

def render : Location → String
  | point p => p.render
  | range s => s.render

end Location

end Proofread
