/-!
# Faults of YAML documents

A `YamlFault` is the reason why a text is no YAML document, or why a document holds something that
has no place in a tree of plain values.
-/

set_option autoImplicit false

namespace DesignTokens

/-- Why a text does not read as a value. -/
inductive YamlFault where
  | forbiddenCharacter
  | unexpectedCharacter
  | missingColon
  | misplacedEntry
  | misplacedKey
  | misplacedValue
  | tabIndentation
  | unclosedQuote
  | markInsideQuote
  | malformedEscape
  | ambiguousColon
  | malformedBlockHeader
  | malformedDirective
  | repeatedDirective
  | unsupportedVersion
  | malformedAnchor
  | malformedTag
  | undeclaredHandle
  | unknownAnchor
  | unexpectedToken
  | missingSeparator
  | missingDocumentStart
  | severalDocuments
  | unsupportedTag
  | malformedTagged
  | integerOutOfRange
  | keyNotScalar
  | tooDeep
  | tooManyReferences
deriving DecidableEq, Repr

namespace YamlFault

/-- The fault in words. -/
def message : YamlFault → String
  | .forbiddenCharacter => "control characters are not allowed"
  | .unexpectedCharacter => "found a character that cannot start any token"
  | .missingColon => "could not find the expected ':'"
  | .misplacedEntry => "block sequence entries are not allowed in this context"
  | .misplacedKey => "mapping keys are not allowed in this context"
  | .misplacedValue => "mapping values are not allowed in this context"
  | .tabIndentation => "found a tab where indentation is expected"
  | .unclosedQuote => "found the end of the stream inside a quoted scalar"
  | .markInsideQuote => "found a document indicator inside a quoted scalar"
  | .malformedEscape => "found an unknown escape in a quoted scalar"
  | .ambiguousColon => "found an unexpected ':' in a plain scalar"
  | .malformedBlockHeader => "found a malformed header of a block scalar"
  | .malformedDirective => "found a malformed directive"
  | .repeatedDirective => "found a repeated directive"
  | .unsupportedVersion => "found an unsupported document version"
  | .malformedAnchor => "did not find the name of an anchor"
  | .malformedTag => "found a malformed tag"
  | .undeclaredHandle => "found an undeclared tag handle"
  | .unknownAnchor => "unknown anchor"
  | .unexpectedToken => "did not find the expected node content"
  | .missingSeparator => "did not find the expected ',' or the end of the collection"
  | .missingDocumentStart => "did not find the expected start of a document"
  | .severalDocuments => "found more than one document"
  | .unsupportedTag => "found a tag that no plain value has"
  | .malformedTagged => "a tagged scalar does not have the form its tag asks for"
  | .integerOutOfRange => "found an integer out of range"
  | .keyNotScalar => "a mapping key must be a scalar"
  | .tooDeep => "recursion limit exceeded"
  | .tooManyReferences => "repetition limit exceeded"

end YamlFault

end DesignTokens
