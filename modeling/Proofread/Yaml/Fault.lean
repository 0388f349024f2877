import Proofread.Yaml.Literal
import Proofread.Yaml.Mark

set_option autoImplicit false

namespace Proofread.Yaml

inductive Problem where
  | keyColon
  | blockEntry
  | blockKey
  | blockValue
  | tokenStart
  | directiveName
  | directiveNameEnd
  | directiveEnd
  | directiveKind
  | versionPoint
  | versionLength
  | versionNumber
  | handleBlank
  | uriBlank
  | anchorName
  | tagMark
  | tagUri
  | tagClose
  | tagBlank
  | escapedOctet
  | leadingOctet
  | trailingOctet
  | zeroIndentation
  | blockHeaderEnd
  | blockTab
  | quotedDocument
  | quotedEnd
  | escapeName
  | escapeDigits
  | escapeValue
  | plainColon
  | plainTab
  | documentStart
  | versionTwice
  | versionUnknown
  | handleTwice
  | handleUnknown
  | nodeContent
  | sequenceEntry
  | mappingKey
  | flowSequenceEntry
  | flowMappingEntry
deriving DecidableEq, Repr

def Problem.message : Problem → String
  | keyColon => "could not find expected ':'"
  | blockEntry => "block sequence entries are not allowed in this context"
  | blockKey => "mapping keys are not allowed in this context"
  | blockValue => "mapping values are not allowed in this context"
  | tokenStart => "found character that cannot start any token"
  | directiveName => "could not find expected directive name"
  | directiveNameEnd => "found unexpected non-alphabetical character"
  | directiveEnd => "did not find expected comment or line break"
  | directiveKind => "found unknown directive name"
  | versionPoint => "did not find expected digit or '.' character"
  | versionLength => "found extremely long version number"
  | versionNumber => "did not find expected version number"
  | handleBlank => "did not find expected whitespace"
  | uriBlank => "did not find expected whitespace or line break"
  | anchorName => "did not find expected alphabetic or numeric character"
  | tagMark => "did not find expected '!'"
  | tagUri => "did not find expected tag URI"
  | tagClose => "did not find the expected '>'"
  | tagBlank => "did not find expected whitespace or line break"
  | escapedOctet => "did not find URI escaped octet"
  | leadingOctet => "found an incorrect leading UTF-8 octet"
  | trailingOctet => "found an incorrect trailing UTF-8 octet"
  | zeroIndentation => "found an indentation indicator equal to 0"
  | blockHeaderEnd => "did not find expected comment or line break"
  | blockTab => "found a tab character where an indentation space is expected"
  | quotedDocument => "found unexpected document indicator"
  | quotedEnd => "found unexpected end of stream"
  | escapeName => "found unknown escape character"
  | escapeDigits => "did not find expected hexdecimal number"
  | escapeValue => "found invalid Unicode character escape code"
  | plainColon => "found unexpected ':'"
  | plainTab => "found a tab character that violates indentation"
  | documentStart => "did not find expected <document start>"
  | versionTwice => "found duplicate %YAML directive"
  | versionUnknown => "found incompatible YAML document"
  | handleTwice => "found duplicate %TAG directive"
  | handleUnknown => "found undefined tag handle"
  | nodeContent => "did not find expected node content"
  | sequenceEntry => "did not find expected '-' indicator"
  | mappingKey => "did not find expected key"
  | flowSequenceEntry => "did not find expected ',' or ']'"
  | flowMappingEntry => "did not find expected ',' or '\x7d'"

inductive Activity where
  | nextToken
  | simpleKey
  | directive
  | versionDirective
  | handleDirective
  | directiveHandle
  | directiveHandleEnd
  | directiveUri
  | anchor
  | reference
  | tag
  | tagContent
  | blockScalar
  | quotedScalar
  | escape
  | plainScalar
  | node
  | blockNode
  | flowNode
  | blockSequence
  | blockMapping
  | flowSequence
  | flowMapping
deriving DecidableEq, Repr

def Activity.message : Activity → String
  | nextToken => "while scanning for the next token"
  | simpleKey => "while scanning a simple key"
  | directive => "while scanning a directive"
  | versionDirective => "while scanning a %YAML directive"
  | handleDirective => "while scanning a %TAG directive"
  | directiveHandle => "while scanning a tag directive"
  | directiveHandleEnd => "while parsing a tag directive"
  | directiveUri => "while parsing a %TAG directive"
  | anchor => "while scanning an anchor"
  | reference => "while scanning an alias"
  | tag => "while scanning a tag"
  | tagContent => "while parsing a tag"
  | blockScalar => "while scanning a block scalar"
  | quotedScalar => "while scanning a quoted scalar"
  | escape => "while parsing a quoted scalar"
  | plainScalar => "while scanning a plain scalar"
  | node => "while parsing a node"
  | blockNode => "while parsing a block node"
  | flowNode => "while parsing a flow node"
  | blockSequence => "while parsing a block collection"
  | blockMapping => "while parsing a block mapping"
  | flowSequence => "while parsing a flow sequence"
  | flowMapping => "while parsing a flow mapping"

inductive Path where
  | root
  | item (parent : Path) (index : Nat)
  | field (parent : Path) (name : String)
  | unnamed (parent : Path)
deriving DecidableEq, Repr

namespace Path

mutual
def render : Path → String
  | root => "."
  | item parent index => parent.render ++ "[" ++ toString index ++ "]"
  | field parent name => parent.lead ++ name
  | unnamed parent => parent.lead ++ "?"
def lead : Path → String
  | root => ""
  | item parent index => parent.render ++ "[" ++ toString index ++ "]."
  | field parent name => parent.lead ++ name ++ "."
  | unnamed parent => parent.lead ++ "?."
end

end Path

inductive Found where
  | literal (l : Literal)
  | sequence
  | mapping
  | tagged
deriving DecidableEq, Repr

def Found.render : Found → String
  | literal l => l.render
  | sequence => "sequence"
  | mapping => "map"
  | tagged => "enum"

inductive Mismatch where
  | kind (found : Found) (expected : String)
  | value (text : String) (expected : String)
  | missing (name : String)
  | duplicate (name : String)
  | range
  | taggedContent
deriving DecidableEq, Repr

def Mismatch.message : Mismatch → String
  | kind found expected => "invalid type: " ++ found.render ++ ", expected " ++ expected
  | value text expected =>
      "invalid value: string " ++ Text.quoted text ++ ", expected " ++ expected
  | missing name => "missing field `" ++ name ++ "`"
  | duplicate name => "duplicate field `" ++ name ++ "`"
  | range => "JSON number out of range"
  | taggedContent => "untagged and internally tagged enums do not support enum input"

inductive Fault where
  | character (offset : Nat)
  | form (problem : Problem) (place : Mark) (during : Option (Activity × Mark))
  | unknownAnchor (place : Mark)
  | tooDeep (place : Mark)
  | tooManyAliases
  | severalDocuments
  | contents (mismatch : Mismatch) (path : Path) (place : Mark)
deriving DecidableEq, Repr

namespace Fault

def placeSuffix (place : Mark) : String :=
  if place.isStart then "" else " at " ++ place.render

/-- Where that began which a fault at `place` interrupts; not mentioned if it is the same place. -/
def duringSuffix (place : Mark) : Option (Activity × Mark) → String
  | none => ""
  | some (activity, began) =>
      let same := began.line == place.line && began.column == place.column
      ", " ++ activity.message ++ (if same then "" else placeSuffix began)

def message : Fault → String
  | character offset =>
      "control characters are not allowed" ++
        (if offset = 0 then "" else " at position " ++ toString offset)
  | form problem place during =>
      problem.message ++ placeSuffix place ++ duringSuffix place during
  | unknownAnchor place => "unknown anchor" ++ placeSuffix place
  | tooDeep place => "recursion limit exceeded" ++ placeSuffix place
  | tooManyAliases => "repetition limit exceeded"
  | severalDocuments =>
      "deserializing from YAML containing more than one document is not supported"
  | contents mismatch path place =>
      (if path = .root then "" else path.render ++ ": ") ++ mismatch.message ++ placeSuffix place

end Fault

end Proofread.Yaml
