/-!
# Faults in patterns

Every reason for which a pattern is refused, and its wording.
-/

namespace PathVersions
namespace Pattern

/-- Why a pattern is refused. -/
inductive Fault
  | classUnclosed
  | groupUnclosed
  | groupUnopened
  | groupNameUnclosed
  | groupNameEmpty
  | groupNameCharacter
  | groupNameRepeated
  | lookaround
  | flagUnknown
  | flagRepeated
  | flagNegationRepeated
  | flagNegationDangling
  | flagsUnclosed
  | operandMissing
  | countUnclosed
  | countMissing
  | countTooLarge
  | countReversed
  | escapeUnfinished
  | escapeUnknown
  | escapeInClass
  | backreference
  | hexDigitInvalid
  | hexEmpty
  | hexNotScalar
  | propertyMalformed
  | wordBoundaryUnfinished
  | wordBoundaryUnclosed
  | wordBoundaryUnknown
  | rangeReversed
  | rangeBoundary
  | nestingTooDeep
  | propertyUnknown
  | propertyValueUnknown
  | unicodeNotAllowed
  | invalidUtf8
  | tooLarge
deriving DecidableEq, Repr

namespace Fault

/-- The wording of a fault. -/
def reason : Fault -> String
  | classUnclosed => "unclosed character class"
  | groupUnclosed => "unclosed group"
  | groupUnopened => "unopened group"
  | groupNameUnclosed => "unclosed capture group name"
  | groupNameEmpty => "empty capture group name"
  | groupNameCharacter => "invalid capture group character"
  | groupNameRepeated => "duplicate capture group name"
  | lookaround => "look-around, including look-ahead and look-behind, is not supported"
  | flagUnknown => "unrecognized flag"
  | flagRepeated => "duplicate flag"
  | flagNegationRepeated => "flag negation operator repeated"
  | flagNegationDangling => "dangling flag negation operator"
  | flagsUnclosed => "expected flag but got end of regex"
  | operandMissing => "repetition operator missing expression"
  | countUnclosed => "unclosed counted repetition"
  | countMissing => "repetition quantifier expects a valid decimal"
  | countTooLarge => "decimal literal invalid"
  | countReversed => "invalid repetition count range, the start must be <= the end"
  | escapeUnfinished => "incomplete escape sequence, reached end of pattern prematurely"
  | escapeUnknown => "unrecognized escape sequence"
  | escapeInClass => "invalid escape sequence found in character class"
  | backreference => "backreferences are not supported"
  | hexDigitInvalid => "invalid hexadecimal digit"
  | hexEmpty => "hexadecimal literal empty"
  | hexNotScalar => "hexadecimal literal is not a Unicode scalar value"
  | propertyMalformed => "invalid Unicode character class"
  | wordBoundaryUnfinished =>
      "found either the beginning of a special word boundary or a bounded repetition on a \\b " ++
        "with an opening brace, but no closing brace"
  | wordBoundaryUnclosed =>
      "special word boundary assertion is either unclosed or contains an invalid character"
  | wordBoundaryUnknown =>
      "unrecognized special word boundary assertion, valid choices are: start, end, " ++
        "start-half or end-half"
  | rangeReversed => "invalid character class range, the start must be <= the end"
  | rangeBoundary => "invalid range boundary, must be a literal"
  | nestingTooDeep => "exceed the maximum number of nested parentheses/brackets (250)"
  | propertyUnknown => "Unicode property not found"
  | propertyValueUnknown => "Unicode property value not found"
  | unicodeNotAllowed => "Unicode not allowed here"
  | invalidUtf8 => "pattern can match invalid UTF-8"
  | tooLarge => "size limit"

end Fault

end Pattern
end PathVersions
