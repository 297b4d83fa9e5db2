/-!
# Defects of patterns

Why a text is no pattern.
-/

namespace RowQuery

namespace Pattern

/-- Why a text is no pattern. -/
inductive Defect
  /-- A group is not closed. -/
  | unclosedGroup
  /-- A parenthesis closes no group. -/
  | unopenedGroup
  /-- A condition on the text around, which patterns lack. -/
  | lookAround
  /-- A group name is empty, not closed or holds a character it may not. -/
  | groupName
  /-- Two groups have one name. -/
  | repeatedName (name : String)
  /-- A list of flags ends early, or holds a letter that is no flag. -/
  | unknownFlag
  /-- A flag or the sign of negation is written twice. -/
  | repeatedFlag
  /-- A negation of flags negates none. -/
  | danglingNegation
  /-- A repetition has nothing to repeat. -/
  | nothingToRepeat
  /-- The counts of a repetition are malformed. -/
  | malformedCount
  /-- The lower count of a repetition exceeds the upper one. -/
  | reversedCount
  /-- The pattern ends within an escape. -/
  | unfinishedEscape
  /-- An escape that has no meaning. -/
  | unknownEscape (c : Char)
  /-- A code point in hexadecimal is malformed or no character. -/
  | malformedCode
  /-- No property, or no value of it, has the name. -/
  | unknownProperty
  /-- The name of a word boundary is unknown or not closed. -/
  | unknownBoundary
  /-- A bracket is not closed. -/
  | unclosedBracket
  /-- A range in a bracket is reversed or has a set as an end. -/
  | malformedRange
  /-- A condition on a place stands in a bracket. -/
  | lookInBracket
  /-- Without Unicode, an item that would match a part of a character. -/
  | unicodeOff
  /-- Groups, brackets and repetitions are nested too deep. -/
  | tooDeep
  /-- The expression takes too much room. -/
  | tooLarge
deriving DecidableEq

/-- The defect in words. -/
def Defect.describe : Defect → String
  | unclosedGroup => "a group is not closed"
  | unopenedGroup => "a parenthesis closes no group"
  | lookAround => "looking ahead or behind is not supported"
  | groupName => "malformed group name"
  | repeatedName name => "two groups are named " ++ name
  | unknownFlag => "unknown flag"
  | repeatedFlag => "a flag is given twice"
  | danglingNegation => "no flag behind '-'"
  | nothingToRepeat => "nothing to repeat"
  | malformedCount => "malformed repetition count"
  | reversedCount => "the repetition counts are reversed"
  | unfinishedEscape => "the pattern ends within an escape"
  | unknownEscape c => "unknown escape '" ++ c.toString ++ "'"
  | malformedCode => "malformed code point"
  | unknownProperty => "unknown property"
  | unknownBoundary => "unknown word boundary"
  | unclosedBracket => "a bracket is not closed"
  | malformedRange => "malformed range"
  | lookInBracket => "a bracket holds characters only"
  | unicodeOff => "not allowed while Unicode is off"
  | tooDeep => "nested too deep"
  | tooLarge => "the expression is too large"

end Pattern

end RowQuery
