import CourseAudit.Regex.CharSet
import CourseAudit.Unicode.Age
import CourseAudit.Unicode.Break
import CourseAudit.Unicode.Derived
import CourseAudit.Unicode.ScriptExtension

/-!
The Unicode properties a pattern can name, found by the loose matching of names: case, blanks,
hyphens, underscores and a leading "is" make no difference.
-/
namespace CourseAudit.Regex.Property

open Unicode

inductive Unknown where
  | property
  | value
  deriving DecidableEq, Repr

def lower (name : List Char) : List Char :=
  (name.filter fun c => c.toNat < 0x80 && c ≠ ' ' && c ≠ '_' && c ≠ '-').map Char.toLower

-- The name as the tables spell it. The name "isc" begins with an "is" of its own.
def loose (name : List Char) : String :=
  match name with
  | i :: s :: rest =>
    if i.toLower = 'i' ∧ s.toLower = 's' then
      if lower rest = ['c'] then "isc" else String.ofList (lower rest)
    else String.ofList (lower name)
  | _ => String.ofList (lower name)

def unionOf (sets : List CharSet) : CharSet :=
  .ofRanges (sets.flatMap fun s => s.ranges.toList)

def categoryUnion (names : List String) : CharSet :=
  unionOf (names.filterMap (NamedTable.find? categories))

def surrogates : CharSet := ⟨#[(0xD800, 0xDFFF)]⟩

-- A category, or a group of them.
def category? (name : String) : Option CharSet :=
  match name with
  | "any" => some .all
  | "ascii" => some (.ofRanges [(0, 0x7F)])
  | "assigned" => some unassigned.table.compl
  | "cn" | "unassigned" => some unassigned.table
  | "l" | "letter" => some (categoryUnion ["lu", "ll", "lt", "lm", "lo"])
  | "lc" | "casedletter" => some (categoryUnion ["lu", "ll", "lt"])
  | "m" | "mark" | "combiningmark" => some (categoryUnion ["mn", "mc", "me"])
  | "n" | "number" => some (categoryUnion ["nd", "nl", "no"])
  | "p" | "punctuation" | "punct" =>
    some (categoryUnion ["pc", "pd", "ps", "pe", "pi", "pf", "po"])
  | "s" | "symbol" => some (categoryUnion ["sm", "sc", "sk", "so"])
  | "z" | "separator" => some (categoryUnion ["zs", "zl", "zp"])
  | "c" | "other" =>
    some (unionOf [categoryUnion ["cc", "cf", "co"], unassigned.table, surrogates])
  | name => NamedTable.find? categories name

-- A category has a name even if no character can be in it.
def isEmptyCategory (name : String) : Bool := name = "cs" || name = "surrogate"

def script? (name : String) : Option CharSet := NamedTable.find? scripts name

-- The characters of a script and those it shares with others. What any script shares is no longer
-- common or inherited.
def scriptExtension? (name : String) : Option CharSet := do
  let own ← script? name
  if ["zyyy", "common", "zinh", "inherited", "qaai"].contains name then
    return own.diff (unionOf (scriptExtensions.map fun t => .ofText t.ranges))
  return own.union ((NamedTable.find? scriptExtensions name).getD .empty)

def age? (name : String) : Option CharSet :=
  (knownIn? name).map fun tables => unionOf (tables.map fun t => .ofText t.ranges)

-- Properties that a character has or has not.
def binary? (name : String) : Option CharSet :=
  NamedTable.find? binaryProperties name <|> NamedFormula.find? derivedProperties name

-- The other properties. A pattern can ask for the value of a few of them.
def otherProperties : List String :=
  let names : String :=
    "age bc bidiclass bidimirroringglyph bidipairedbracket bidipairedbrackettype blk block " ++
    "bmg bpb bpt canonicalcombiningclass casefolding ccc ce cf changeswhennfkccasefolded " ++
    "cjkaccountingnumeric cjkcompatibilityvariant cjkiicore cjkirggsource cjkirghsource " ++
    "cjkirgjsource cjkirgkpsource cjkirgksource cjkirgmsource cjkirgssource cjkirgtsource " ++
    "cjkirguksource cjkirgusource cjkirgvsource cjkothernumeric cjkprimarynumeric " ++
    "cjkrsunicode compex compositionexclusion cwkcf decompositionmapping decompositiontype dm " ++
    "dt ea eastasianwidth equideo equivalentunifiedideograph expandsonnfc expandsonnfd " ++
    "expandsonnfkc expandsonnfkd fcnfkc fcnfkcclosure fullcompositionexclusion gc gcb " ++
    "generalcategory graphemeclusterbreak hangulsyllabletype hst incb indicconjunctbreak " ++
    "indicpositionalcategory indicsyllabiccategory inpc insc isc jamoshortname jg " ++
    "joininggroup joiningtype jsn jt kaccountingnumeric kcompatibilityvariant kehcat kehdesc " ++
    "kehhg kehifao kehjsesh kehnomirror kehnorotate kiicore kirggsource kirghsource " ++
    "kirgjsource kirgkpsource kirgksource kirgmsource kirgssource kirgtsource kirguksource " ++
    "kirgusource kirgvsource kothernumeric kprimarynumeric krsunicode lb lc linebreak " ++
    "lowercasemapping na na1 name namealias nfcqc nfcquickcheck nfdqc nfdquickcheck " ++
    "nfkccasefold nfkccf nfkcqc nfkcquickcheck nfkcscf nfkcsimplecasefold nfkdqc " ++
    "nfkdquickcheck nt numerictype numericvalue nv ocomment sb sc scf script scriptextensions " ++
    "scx sentencebreak sfc simplecasefolding simplelowercasemapping simpletitlecasemapping " ++
    "simpleuppercasemapping slc stc suc tc titlecasemapping uc unicode1name " ++
    "unicoderadicalstroke uppercasemapping urs verticalorientation vo wb wordbreak xonfc " ++
    "xonfd xonfkc xonfkd"
  (Text.split ' ' names.toList).map String.ofList

-- A property by its name alone: one that a character has or has not, a category, or a script. Some
-- short names of properties stand for a category.
def named (name : List Char) : Except Unknown CharSet :=
  let name := loose name
  let isCategory := ["cf", "sc", "lc"].contains name
  match if isCategory then none else binary? name with
  | some s => .ok s
  | none =>
    if !isCategory && otherProperties.contains name then .error .property
    else
      match category? name <|> script? name with
      | some s => .ok s
      | none =>
        if isEmptyCategory name || emptyScripts.contains name then .error .value
        else .error .property

-- A property by name and value.
def valued (name value : List Char) : Except Unknown CharSet :=
  let value := loose value
  let found : Except Unknown (Option CharSet) := match loose name with
    | "gc" | "generalcategory" => .ok (category? value)
    | "sc" | "script" => .ok (script? value)
    | "scx" | "scriptextensions" => .ok (scriptExtension? value)
    | "age" => .ok (age? value)
    | "gcb" | "graphemeclusterbreak" => .ok (NamedFormula.find? graphemeBreak value)
    | "wb" | "wordbreak" => .ok (NamedFormula.find? wordBreak value)
    | "sb" | "sentencebreak" => .ok (NamedFormula.find? sentenceBreak value)
    | name =>
      if otherProperties.contains name || (binary? name).isSome then .ok none else .error .property
  match found with
  | .ok (some s) => .ok s
  | .ok none => .error .value
  | .error e => .error e

end CourseAudit.Regex.Property
