import CourseAudit.Regex.Reader
import CourseAudit.Text.Search

/-!
The single items of a pattern or a class: characters, and what stands behind a backslash.
-/
namespace CourseAudit.Regex

-- What one item of a pattern or class can be.
inductive Item where
  | literal (l : Literal)
  | dot (span : Span)
  | look (l : LookAst) (span : Span)
  | set (s : ClassAst)

namespace Item

def span : Item → Span
  | .literal l => l.span
  | .dot s | .look _ s => s
  | .set s => s.span

def toAst : Item → Ast
  | .literal l => .literal l
  | .dot s => .dot s
  | .look l _ => .look l
  | .set s => .set s

end Item

namespace Reader

-- The digits of `\xHH`, `\uHHHH` or `\UHHHHHHHH`.
def hexDigits : Nat → Bool → Reader (List Char)
  | 0, _ => return []
  | n + 1, first => do
    if !first then
      if !(← bumpSkip) then failHere .escapeUnexpectedEnd
    match ← peek with
    | some c =>
      if isHexDigit c then return c :: (← hexDigits n false)
      else failChar .hexInvalidDigit
    | none => failHere .escapeUnexpectedEnd

-- Hexadecimal digits up to a closing brace.
def bracedDigits : Nat → Reader (List Char)
  | 0 => return []
  | n + 1 => do
    if !(← bumpSkip) then return []
    match ← peek with
    | some c =>
      if c = '\x7d' then return []
      else if isHexDigit c then return c :: (← bracedDigits n)
      else failChar .hexInvalidDigit
    | none => return []

-- A character by its number; the cursor stands on the letter behind the backslash.
def hexLiteral (kind : Char) (start : Place) : Reader Literal := do
  if !(← bumpSkip) then failHere .escapeUnexpectedEnd
  if (← peek) = some '\x7b' then
    let brace ← here
    let first := (← get).charSpan.stop
    let digits ← bracedDigits (← fuel)
    if (← peek).isNone then failFrom .escapeUnexpectedEnd brace
    let stop ← here
    let _ ← bumpSkip
    if digits.isEmpty then failFrom .hexEmpty brace
    match scalar? digits with
    | some c => return ⟨c, false, ⟨start, ← here⟩⟩
    | none => fail .hexInvalid ⟨first, stop⟩
  else
    let first ← here
    let digits ← hexDigits (if kind = 'x' then 2 else if kind = 'u' then 4 else 8) true
    let _ ← bumpSkip
    match scalar? digits with
    | some c => return ⟨c, kind = 'x', ⟨start, ← here⟩⟩
    | none => failFrom .hexInvalid first

-- The name of a property up to a closing brace.
def bracedName : Nat → Reader (List Char)
  | 0 => return []
  | n + 1 => do
    if !(← bumpSkip) then return []
    match ← peek with
    | some c => if c = '\x7d' then return [] else return c :: (← bracedName n)
    | none => return []

def splitAt? (mark : List Char) : List Char → Option (List Char × List Char)
  | [] => none
  | c :: rest =>
    match Text.stripStart? mark (c :: rest) with
    | some after => some ([], after)
    | none => (splitAt? mark rest).map fun (before, after) => (c :: before, after)

def propertyQuery (name : List Char) : PropertyQuery :=
  match splitAt? ['!', '='] name with
  | some (name, value) => .valued name value true
  | none =>
    match splitAt? [':'] name with
    | some (name, value) => .valued name value false
    | none =>
      match splitAt? ['='] name with
      | some (name, value) => .valued name value false
      | none => .named name

def property (negated : Bool) (start : Place) : Reader ClassAst := do
  if !(← bumpSkip) then failHere .escapeUnexpectedEnd
  match ← peek with
  | some '\x7b' =>
    let name ← bracedName (← fuel)
    if (← peek).isNone then failHere .escapeUnexpectedEnd
    bump
    return .property (propertyQuery name) negated ⟨start, ← here⟩
  | some '\\' => failChar .unicodeClassInvalid
  | some c =>
    let _ ← bumpSkip
    return .property (.named [c]) negated ⟨start, ← here⟩
  | none => failHere .escapeUnexpectedEnd

def isBoundaryLetter (c : Char) : Bool :=
  ('A' ≤ c && c ≤ 'Z') || ('a' ≤ c && c ≤ 'z') || c = '-'

-- The braces behind `\b`, if they hold the name of an assertion and not a repetition count.
def boundaryName (escape : Place) : Reader (Option LookAst) := do
  let saved ← get
  let start ← here
  if !(← bumpSkip) then failFrom .wordBoundaryUnexpectedEnd escape
  let first ← here
  match ← peek with
  | some c =>
    if !isBoundaryLetter c then
      modify fun _ => saved
      return none
    let name ← takeRun (← fuel) isBoundaryLetter
    if (← peek) ≠ some '\x7d' then failFrom .wordBoundaryUnclosed start
    let stop ← here
    bump
    match String.ofList name with
    | "start" => return some .wordStart
    | "end" => return some .wordEnd
    | "start-half" => return some .wordStartHalf
    | "end-half" => return some .wordEndHalf
    | _ => fail .wordBoundaryUnrecognized ⟨first, stop⟩
  | none => failFrom .wordBoundaryUnexpectedEnd escape

def isMeta (c : Char) : Bool :=
  "\\.+*?()|[]\x7b\x7d^$#&-~".toList.contains c

def isEscapable (c : Char) : Bool :=
  isMeta c || (c.toNat < 0x80 && !c.isAlphanum && c ≠ '<' && c ≠ '>')

-- The item behind a backslash.
def escape : Reader Item := do
  let start ← here
  bump
  match ← peek with
  | none => failFrom .escapeUnexpectedEnd start
  | some c =>
    if c.isDigit then fail .backreference ⟨start, (← get).charSpan.stop⟩
    else if c = 'x' || c = 'u' || c = 'U' then return .literal (← hexLiteral c start)
    else if c = 'p' || c = 'P' then
      return .set (← property (c = 'P') start)
    else
      bump
      let span : Span := ⟨start, ← here⟩
      let literal (c : Char) : Item := .literal ⟨c, false, span⟩
      let shorthand (kind : Shorthand) (negated : Bool) : Item :=
        .set (.shorthand kind negated span)
      match c with
      | 'd' => return shorthand .digit false
      | 'D' => return shorthand .digit true
      | 's' => return shorthand .blank false
      | 'S' => return shorthand .blank true
      | 'w' => return shorthand .word false
      | 'W' => return shorthand .word true
      | 'a' => return literal '\x07'
      | 'f' => return literal '\x0C'
      | 't' => return literal '\t'
      | 'n' => return literal '\n'
      | 'r' => return literal '\r'
      | 'v' => return literal '\x0B'
      | 'A' => return .look .textStart span
      | 'z' => return .look .textEnd span
      | 'B' => return .look .notWordBoundary span
      | '<' => return .look .wordStart span
      | '>' => return .look .wordEnd span
      | 'b' =>
        if (← peek) = some '\x7b' then
          match ← boundaryName start with
          | some l => return .look l ⟨start, ← here⟩
          | none => return .look .wordBoundary span
        else return .look .wordBoundary span
      | c => if isEscapable c then return literal c else fail .escapeUnrecognized span

def item : Reader Item := do
  match ← peek with
  | some '\\' => escape
  | some c =>
    let span := (← get).charSpan
    bump
    match c with
    | '.' => return .dot span
    | '^' => return .look .caret span
    | '$' => return .look .dollar span
    | c => return .literal ⟨c, false, span⟩
  | none => failHere .escapeUnexpectedEnd

end Reader
end CourseAudit.Regex
