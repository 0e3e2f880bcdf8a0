import RecordQuery.Pattern.Parse
import RecordQuery.Pattern.Search
import RecordQuery.PatternEngine

/-!
An engine to run queries with. It knows the classes of characters by their general categories, and those of
ASCII; scripts and other properties of characters are unknown to it.
-/

namespace RecordQuery.Pattern

/-- Reads regular expressions and searches by places. A text that is no pattern is its own reason. -/
instance : PatternEngine where
  Pattern := Expression
  read text := (parse? text).elim (.error text) .ok
  occursIn e text := e.search text.toList

end RecordQuery.Pattern
