import CourseAudit.Unicode.Derived

/-!
The characters of names. Names are newer than properties: the tables of the properties are those of
Unicode 16, and a name can also have the letters, marks and digits that Unicode 17 adds.
-/
namespace CourseAudit.Unicode

def newLetters : Formula := .ranges
    "88F C5C CDC A7CE-A7CF A7D2 A7D4 A7F1 10940-10959 10EC5-10EC7 11DB0-11DDB 16EA0-16EB8
    16EBB-16ED3 16FF2-16FF6 187F8-187FF 18D09-18D1E 18D80-18DF2 1E6C0-1E6DE 1E6E0-1E6E2 1E6E4-1E6E5
    1E6E7-1E6ED 1E6F0-1E6F4 1E6FE-1E6FF 2B73A-2B73F 2CEA2-2CEAD 323B0-33479"

-- Marks that are alphabetic, and marks that are not.
def newVowels : Formula := .ranges "10EFA-10EFB 11B60-11B67 1E6E3 1E6E6 1E6EE-1E6EF 1E6F5"

def newAccents : Formula := .ranges "1ACF-1ADD 1AE0-1AEB"

def newDigits : Formula := .ranges "11DE0-11DE9"

-- Letters, and numbers that are written as letters.
def letterTable : RangeTable :=
  (.ofCategories ["lu", "ll", "lt", "lm", "lo", "nl"] ∪ newLetters).table

-- Marks, digits and connectors.
def joinedTable : RangeTable :=
  (.ofCategories ["mn", "mc", "nd", "pc"] ∪ newVowels ∪ newAccents ∪ newDigits).table

def alphabeticTable : RangeTable := (alphabetic ∪ newLetters ∪ newVowels).table

def numberTable : RangeTable := (.ofCategories ["nd", "nl", "no"] ∪ newDigits).table

-- Characters that can stand in the name of a group, in its first place or behind it.
def isNameChar (first : Bool) (c : Char) : Bool :=
  c = '_' || alphabeticTable.contains c.toNat
    || (!first && (c = '.' || c = '[' || c = ']' || numberTable.contains c.toNat))

end CourseAudit.Unicode
