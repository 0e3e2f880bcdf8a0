/-!
The engine of patterns. Which texts are patterns, and where a pattern matches, is for an engine to say: to all
else it is a reader of patterns, which may refuse a text, and a search for what it has read.
-/

namespace RecordQuery

/-- An engine of patterns. -/
class PatternEngine where
  /-- A pattern that has been read. -/
  Pattern : Type
  /-- Reads a pattern, or gives the reason why the text is none. -/
  read : String → Except String Pattern
  /-- The pattern matches somewhere in the text. -/
  occursIn : Pattern → String → Bool

end RecordQuery
