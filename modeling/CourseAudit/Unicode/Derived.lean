import CourseAudit.Unicode.Binary

/-!
Properties that the standard derives from categories and from listed properties.
-/
namespace CourseAudit.Unicode

-- How a set of characters is made of categories, listed properties and ranges.
inductive Formula where
  | category (name : String)
  | property (name : String)
  | ranges (text : String)
  | union (a b : Formula)
  | without (a b : Formula)
  deriving Repr

namespace Formula

instance : Union Formula := ⟨.union⟩

instance : SDiff Formula := ⟨.without⟩

def table : Formula → RangeTable
  | .category name => (NamedTable.find? categories name).getD .empty
  | .property name => (NamedTable.find? binaryProperties name).getD .empty
  | .ranges text => .ofText text
  | .union a b => a.table.union b.table
  | .without a b => a.table.diff b.table

-- The union of several categories.
def ofCategories (names : List String) : Formula :=
  names.foldr (fun name f => .category name ∪ f) (.ranges "")

end Formula

-- A set given by a formula, with the names it goes by.
structure NamedFormula where
  names : List String
  formula : Formula

namespace NamedFormula

def find? (sets : List NamedFormula) (name : String) : Option RangeTable :=
  (sets.find? (·.names.contains name)).map (·.formula.table)

end NamedFormula

def lowercase : Formula := .category "ll" ∪ .property "olower"

def uppercase : Formula := .category "lu" ∪ .property "oupper"

def cased : Formula := lowercase ∪ uppercase ∪ .category "lt"

def alphabetic : Formula := cased ∪ .ofCategories ["lm", "lo", "nl"] ∪ .property "oalpha"

def graphemeExtend : Formula := .ofCategories ["me", "mn"] ∪ .property "ogrext"

def patternCharacter : Formula := .property "patsyn" ∪ .property "patws"

def identifierStart : Formula :=
  (.ofCategories ["lu", "ll", "lt", "lm", "lo", "nl"] ∪ .property "oids") \ patternCharacter

def identifierContinue : Formula :=
  (identifierStart ∪ .ofCategories ["mn", "mc", "nd", "pc"] ∪ .property "oidc") \ patternCharacter

-- Characters whose compatibility form is no identifier although they are letters.
def unstable : Formula := .ranges
  "37A 309B-309C FC5E-FC63 FDFA-FDFB FE70-FE7E/2"

-- Letters whose compatibility form begins with a mark.
def unstableStart : Formula := .ranges "E33 EB3 FF9E-FF9F"

-- The code points that no category holds.
def unassigned : Formula :=
  .ranges "0-10FFFF" \ .ofCategories (categories.map (·.names.headD ""))

def defaultIgnorable : Formula :=
  (.property "odi" ∪ .category "cf" ∪ .property "vs")
    \ (.property "space" ∪ .ranges "FFF9-FFFB 13430-1343F" ∪ .property "pcm")

def derivedProperties : List NamedFormula := [
  ⟨["lower", "lowercase"], lowercase⟩,
  ⟨["upper", "uppercase"], uppercase⟩,
  ⟨["cased"], cased⟩,
  ⟨["alpha", "alphabetic"], alphabetic⟩,
  ⟨["math"], .category "sm" ∪ .property "omath"⟩,
  ⟨["ids", "idstart"], identifierStart⟩,
  ⟨["idc", "idcontinue"], identifierContinue⟩,
  ⟨["xids", "xidstart"], identifierStart \ (unstable ∪ unstableStart)⟩,
  ⟨["xidc", "xidcontinue"], identifierContinue \ unstable⟩,
  ⟨["grext", "graphemeextend"], graphemeExtend⟩,
  ⟨["grbase", "graphemebase"],
    .ranges "0-10FFFF"
      \ (.ofCategories ["cc", "cf", "co", "zl", "zp"] ∪ unassigned ∪ graphemeExtend)⟩,
  ⟨["di", "defaultignorablecodepoint"], defaultIgnorable⟩,
  ⟨["ci", "caseignorable"],
    .ofCategories ["mn", "me", "cf", "lm", "sk"]
      ∪ .ranges "27 2E 3A B7 387 55F 5F4 2018-2019 2024 2027 FE13 FE52 FE55 FF07 FF0E FF1A"⟩,
  ⟨["cwcm", "changeswhencasemapped"], .property "cwl" ∪ .property "cwt" ∪ .property "cwu"⟩]

end CourseAudit.Unicode
