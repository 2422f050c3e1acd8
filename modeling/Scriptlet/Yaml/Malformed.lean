import Scriptlet.Text.Basic

/-!
# Malformed YAML

What can be wrong with a source that is no YAML, and how it is worded. A defect has a place, and may
have another one: where the part began that it spoils. The line of that beginning is the one that is
named; if it is the first line of the source, the line of the defect is named instead, and the first
line is never named.
-/

namespace Scriptlet.Yaml

/-- What is wrong with a source that is no YAML. -/
inductive Defect where
  | controlCharacter
  | leadByte
  | cutCharacter
  | trailingByte
  | overlongCharacter
  | invalidCharacter
  | cutUnit
  | loneLowSurrogate
  | cutPair
  | loneHighSurrogate
  | strayCharacter
  | strayValue
  | strayItem
  | strayKey
  | keyWithoutValue
  | documentInQuotes
  | unclosedQuotes
  | unknownEscape
  | escapeDigits
  | escapeValue
  | tabBeforeText
  | zeroIndentation
  | lineEnd
  | tabInIndentation
  | anchorName
  | tagAddress
  | tagBracket
  | tagEnd
  | tagMark
  | escapedByte
  | escapedLeadByte
  | escapedTrailingByte
  | directiveName
  | directiveLetter
  | unknownDirective
  | longVersion
  | versionNumber
  | versionPoint
  | handleEnd
  | tooDeep
  | expectedKey
  | expectedItem
  | expectedFlowItem
  | expectedFlowEntry
  | expectedContent
  | expectedDocument
  | unknownHandle
  | unknownVersion
  | repeatedVersion
  | repeatedHandle
  | unknownAnchor (name : Text)
  deriving DecidableEq, Repr

namespace Defect

/-- How many collections may be open at once. -/
def deepest : Nat := 10000

/-- The wording of a defect. -/
def message : Defect → Text
  | .controlCharacter => text "control characters are not allowed"
  | .leadByte => text "invalid leading UTF-8 octet"
  | .cutCharacter => text "incomplete UTF-8 octet sequence"
  | .trailingByte => text "invalid trailing UTF-8 octet"
  | .overlongCharacter => text "invalid length of a UTF-8 sequence"
  | .invalidCharacter => text "invalid Unicode character"
  | .cutUnit => text "incomplete UTF-16 character"
  | .loneLowSurrogate => text "unexpected low surrogate area"
  | .cutPair => text "incomplete UTF-16 surrogate pair"
  | .loneHighSurrogate => text "expected low surrogate area"
  | .strayCharacter => text "found character that cannot start any token"
  | .strayValue => text "mapping values are not allowed in this context"
  | .strayItem => text "block sequence entries are not allowed in this context"
  | .strayKey => text "mapping keys are not allowed in this context"
  | .keyWithoutValue => text "could not find expected ':'"
  | .documentInQuotes => text "found unexpected document indicator"
  | .unclosedQuotes => text "found unexpected end of stream"
  | .unknownEscape => text "found unknown escape character"
  | .escapeDigits => text "did not find expected hexdecimal number"
  | .escapeValue => text "found invalid Unicode character escape code"
  | .tabBeforeText => text "found a tab character that violates indentation"
  | .zeroIndentation => text "found an indentation indicator equal to 0"
  | .lineEnd => text "did not find expected comment or line break"
  | .tabInIndentation => text "found a tab character where an indentation space is expected"
  | .anchorName => text "did not find expected alphabetic or numeric character"
  | .tagAddress => text "did not find expected tag URI"
  | .tagBracket => text "did not find the expected '>'"
  | .tagEnd => text "did not find expected whitespace or line break"
  | .tagMark => text "did not find expected '!'"
  | .escapedByte => text "did not find URI escaped octet"
  | .escapedLeadByte => text "found an incorrect leading UTF-8 octet"
  | .escapedTrailingByte => text "found an incorrect trailing UTF-8 octet"
  | .directiveName => text "could not find expected directive name"
  | .directiveLetter => text "found unexpected non-alphabetical character"
  | .unknownDirective => text "found unknown directive name"
  | .longVersion => text "found extremely long version number"
  | .versionNumber => text "did not find expected version number"
  | .versionPoint => text "did not find expected digit or '.' character"
  | .handleEnd => text "did not find expected whitespace"
  | .tooDeep => text "exceeded max depth of " ++ Text.ofNat deepest
  | .expectedKey => text "did not find expected key"
  | .expectedItem => text "did not find expected '-' indicator"
  | .expectedFlowItem => text "did not find expected ',' or ']'"
  | .expectedFlowEntry => text "did not find expected ',' or '\x7d'"
  | .expectedContent => text "did not find expected node content"
  | .expectedDocument => text "did not find expected <document start>"
  | .unknownHandle => text "found undefined tag handle"
  | .unknownVersion => text "found incompatible YAML document"
  | .repeatedVersion => text "found duplicate %YAML directive"
  | .repeatedHandle => text "found duplicate %TAG directive"
  | .unknownAnchor name => text "unknown anchor '" ++ name ++ text "' referenced"

end Defect

/-- A source that is no YAML: what is wrong, and the line that is named with it. -/
structure Malformed where
  defect : Defect
  line : Option Nat := none
  deriving DecidableEq, Repr

namespace Malformed

/-- The line to name for a defect, given the lines of its beginning and of itself, from zero. -/
def namedLine (beginning own : Nat) : Option Nat :=
  if beginning ≠ 0 then some beginning else if own ≠ 0 then some own else none

/-- A defect in the spelling of a source; the named line counts from one. -/
def spelling (defect : Defect) (beginning own : Nat) : Malformed :=
  { defect, line := (namedLine beginning own).map (· + 1) }

/-- A defect in the structure of a source; the named line counts from zero. -/
def structural (defect : Defect) (beginning own : Nat) : Malformed :=
  { defect, line := namedLine beginning own }

/-- The wording of a malformed source. -/
def message (malformed : Malformed) : Text :=
  text "yaml: " ++
    (match malformed.line with
      | none => []
      | some line => text "line " ++ Text.ofNat line ++ text ": ") ++
    malformed.defect.message

end Malformed

end Scriptlet.Yaml
