/-!
The characters that came with the latest versions of Unicode. Texts are read by Unicode 17.0. Patterns
are read by the version before it, in which some characters were unassigned yet, and identifiers by
the version after it, in which some more are assigned.
-/

namespace RecordQuery.Unicode

/-- The characters that came with Unicode 17.0. -/
def recent : List (Nat × Nat) := [
  (0x88F, 0x88F), (0xC5C, 0xC5C), (0xCDC, 0xCDC), (0x1ACF, 0x1ADD), (0x1AE0, 0x1AEB),
  (0x20C1, 0x20C1), (0x2B96, 0x2B96), (0xA7CE, 0xA7CF), (0xA7D2, 0xA7D2), (0xA7D4, 0xA7D4),
  (0xA7F1, 0xA7F1), (0xFBC3, 0xFBD2), (0xFD90, 0xFD91), (0xFDC8, 0xFDCE), (0x10940, 0x10959),
  (0x10EC5, 0x10EC7), (0x10ED0, 0x10ED8), (0x10EFA, 0x10EFB), (0x11B60, 0x11B67),
  (0x11DB0, 0x11DDB), (0x11DE0, 0x11DE9), (0x16EA0, 0x16EB8), (0x16EBB, 0x16ED3),
  (0x16FF2, 0x16FF6), (0x187F8, 0x187FF), (0x18D09, 0x18D1E), (0x18D80, 0x18DF2),
  (0x1CCFA, 0x1CCFC), (0x1CEBA, 0x1CED0), (0x1CEE0, 0x1CEF0), (0x1E6C0, 0x1E6DE),
  (0x1E6E0, 0x1E6F5), (0x1E6FE, 0x1E6FF), (0x1F6D8, 0x1F6D8), (0x1F777, 0x1F77A),
  (0x1F8D0, 0x1F8D8), (0x1FA54, 0x1FA57), (0x1FA8A, 0x1FA8A), (0x1FA8E, 0x1FA8E),
  (0x1FAC8, 0x1FAC8), (0x1FACD, 0x1FACD), (0x1FAEA, 0x1FAEA), (0x1FAEF, 0x1FAEF),
  (0x1FBFA, 0x1FBFA), (0x2B73A, 0x2B73F), (0x2CEA2, 0x2CEAD), (0x323B0, 0x33479)]

/-- The code point was unassigned in Unicode 16.0. -/
def isRecent (n : Nat) : Bool := recent.any fun r => r.1 ≤ n && n ≤ r.2

/-- Letters and letter numbers that come with Unicode 18.0. -/
def upcomingLetters : List (Nat × Nat) := [
  (0x558, 0x558), (0x58B, 0x58C), (0x208F, 0x208F), (0x209D, 0x209F), (0xA7DD, 0xA7DD),
  (0x107BB, 0x107BB), (0x10ED9, 0x10ED9), (0x11B0A, 0x11B0A), (0x1246F, 0x1246F),
  (0x12550, 0x12686), (0x1B123, 0x1B123), (0x1D6A6, 0x1D6A7), (0x1DF90, 0x1DF90),
  (0x2B81E, 0x2B81E), (0x3D000, 0x3FC3F)]

/-- Marks that come with Unicode 18.0. -/
def upcomingMarks : List (Nat × Nat) := [
  (0x5C8, 0x5C9), (0xB53, 0xB54), (0x1ADE, 0x1ADF), (0x1AEC, 0x1AEC), (0x10EF0, 0x10EF0),
  (0x11DF0, 0x11DF0), (0x1D25B, 0x1D25B)]

end RecordQuery.Unicode
