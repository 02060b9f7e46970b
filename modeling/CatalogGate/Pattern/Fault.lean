-- Why a text is no pattern.
namespace CatalogGate.Pattern

inductive Fault where
  | tooDeep
  | tooBig
  | duplicateName
  | unclosedGroup
  | questionAtEnd
  | unopenedGroup
  | lookAround
  | emptyFlags
  | missingName
  | invalidName
  | unclosedName
  | emptyName
  | unknownFlag
  | repeatedNegation
  | duplicateFlag
  | unclosedFlags
  | danglingNegation
  | noDigits
  | numberTooLarge
  | bracedHexInvalidDigit
  | bracedHexUnclosed
  | bracedHexEmpty
  | bracedHexNoCharacter
  | fixedHexUnclosed
  | fixedHexInvalidDigit
  | fixedHexNoCharacter
  | hexAtEnd
  | escapeAtEnd
  | backreference
  | unicodeClass
  /-- With the text behind the backslash. -/
  | unknownEscape (behind : List Char)
  | nothingToRepeat
  | nothingToCount
  | countUnclosed
  | countUnclosedAfterLeast
  | countUnclosedAfterComma
  | countUnclosedAfterMost
  | countInvalid
  | countOutOfOrder
  | classUnclosedAfterItem
  | classRangeOfSets
  | classInvalidItem
  | classUnclosedAfterDash
  | classUnclosedAfterNegation
  | classUnclosedAfterBracket
  | classRangeOutOfOrder
  | classUnclosed
  | classNested
  | classIntersection
  | classDifference
  | classSymmetricDifference
  | wordBoundaryUnclosed
  | wordBoundaryUnknown
  | wordBoundaryAtEnd
deriving Repr, DecidableEq

def Fault.message : Fault → String
  | tooDeep => "pattern has too much nesting"
  | tooBig => "compiled regex exceeded size limit"
  | duplicateName => "duplicate capture group name"
  | unclosedGroup => "found open group without closing ')'"
  | questionAtEnd => "expected closing ')', but got end of pattern"
  | unopenedGroup => "found closing ')' without matching '('"
  | lookAround => "look-around is not supported"
  | emptyFlags => "empty flag directive '(?)' is not allowed"
  | missingName => "expected capture group name, but got end of pattern"
  | invalidName => "invalid group name"
  | unclosedName => "expected end of capture group name, but got end of pattern"
  | emptyName => "empty capture group names are not allowed"
  | unknownFlag => "unrecognized inline flag"
  | repeatedNegation => "inline flag negation cannot be repeated"
  | duplicateFlag => "duplicate inline flag is not allowed"
  | unclosedFlags => "expected ':' or ')' to end inline flags, but got end of pattern"
  | danglingNegation => "inline flags cannot end with negation directive"
  | noDigits => "expected decimal number, but found no digits"
  | numberTooLarge => "got invalid decimal number"
  | bracedHexInvalidDigit => "expected hexadecimal number in braces, but got non-hex digit"
  | bracedHexUnclosed => "expected hexadecimal number, but saw end of pattern before closing brace"
  | bracedHexEmpty => "expected hexadecimal number in braces, but got no digits"
  | bracedHexNoCharacter => "got invalid hexadecimal number in braces"
  | fixedHexUnclosed => "expected fixed length hexadecimal number, but saw end of pattern first"
  | fixedHexInvalidDigit => "expected fixed length hexadecimal number, but got non-hex digit"
  | fixedHexNoCharacter => "got invalid fixed length hexadecimal number"
  | hexAtEnd => "expected hexadecimal number, but saw end of pattern first"
  | escapeAtEnd => "saw start of escape sequence, but saw end of pattern before it finished"
  | backreference => "backreferences are not supported"
  | unicodeClass => "Unicode character classes are not supported"
  | unknownEscape _ => "unrecognized escape sequence"
  | nothingToRepeat => "uncounted repetition operator must be applied to a sub-expression"
  | nothingToCount => "counted repetition operator must be applied to a sub-expression"
  | countUnclosed => "found unclosed counted repetition operator"
  | countUnclosedAfterLeast => "found incomplete and unclosed counted repetition operator"
  | countUnclosedAfterComma => "found counted repetition operator with a comma that is unclosed"
  | countUnclosedAfterMost => "found counted repetition with min and max that is unclosed"
  | countInvalid => "expected closing brace for counted repetition, but got something else"
  | countOutOfOrder => "found counted repetition with a min bigger than its max"
  | classUnclosedAfterItem => "non-empty character class has no closing bracket"
  | classRangeOfSets => "character class ranges must start and end with a single character"
  | classInvalidItem => "invalid escape sequence in character class"
  | classUnclosedAfterDash => "non-empty character class has no closing bracket after dash"
  | classUnclosedAfterNegation => "negated character class has no closing bracket"
  | classUnclosedAfterBracket =>
    "character class begins with literal ']' but has no closing bracket"
  | classRangeOutOfOrder => "invalid range in character class"
  | classUnclosed => "found unclosed character class"
  | classNested => "nested character classes are not supported"
  | classIntersection => "character class intersection is not supported"
  | classDifference => "character class difference is not supported"
  | classSymmetricDifference => "character class symmetric difference is not supported"
  | wordBoundaryUnclosed => "special word boundary assertion is unclosed or has an invalid character"
  | wordBoundaryUnknown => "special word boundary assertion is unrecognized"
  | wordBoundaryAtEnd => "found start of special word boundary or repetition without an end"

end CatalogGate.Pattern
