set_option autoImplicit false

namespace Proofread.Markdown

inductive HeadingLevel where
  | h1
  | h2
  | h3
  | h4
  | h5
  | h6
deriving DecidableEq, Repr

namespace HeadingLevel

def depth : HeadingLevel → UInt8
  | h1 => 1
  | h2 => 2
  | h3 => 3
  | h4 => 4
  | h5 => 5
  | h6 => 6

def ofMarks? : Nat → Option HeadingLevel
  | 1 => some h1
  | 2 => some h2
  | 3 => some h3
  | 4 => some h4
  | 5 => some h5
  | 6 => some h6
  | _ => none

@[simp] theorem depth_le (level : HeadingLevel) : level.depth ≤ 6 := by
  cases level <;> decide

end HeadingLevel

inductive Construct where
  | paragraph
  | heading (level : HeadingLevel)
  | blockquote
  | fencedCode (info : String)
  | indentedCode
  | htmlBlock
  | list (ordered : Bool)
  | listItem
  | emphasis
  | strong
  | link (url : String)
  | image (url : String)
deriving DecidableEq, Repr

inductive EventBody where
  | enter (construct : Construct)
  | leave
  | text (value : String)
  | code (value : String)
  | html (value : String)
  | inlineHtml (value : String)
  | softBreak
  | hardBreak
  | rule
deriving DecidableEq, Repr

structure Event where
  body : EventBody
  start : Nat
  stop : Nat
deriving DecidableEq, Repr

end Proofread.Markdown
