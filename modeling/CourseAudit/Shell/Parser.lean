import CourseAudit.Shell.Command
import CourseAudit.Text.Split

/-!
Reading scripts. Readers take what they understand from the front of the text. What a command is
depends on where it stands, so there are no tokens: words, reserved words and operators are read
where they are looked for.

`fuel` bounds the nesting; every step into it takes a character, so the length of the text suffices.
-/
namespace CourseAudit.Shell.Parser

-- Why a text is no script.
inductive Fault where
  | unterminatedQuote
  | missingBrace
  | missingParentheses
  | openBackquote
  | badLoopName
  | badFunctionName
  | unexpected (token : String) (expected : Option String)
  deriving DecidableEq, Repr

namespace Fault

def message : Fault → String
  | .unterminatedQuote => "Unterminated quoted string"
  | .missingBrace => "Missing '\x7d'"
  | .openBackquote => "EOF in backquote substitution"
  | .missingParentheses => "Missing '))'"
  | .badLoopName => "Bad for loop variable"
  | .badFunctionName => "Bad function name"
  | .unexpected token none => token ++ " unexpected"
  | .unexpected token (some other) => token ++ " unexpected (expecting " ++ other ++ ")"

end Fault

-- A fault, and how many ends of lines stood behind it.
structure Refusal where
  fault : Fault
  unread : Nat
  deriving DecidableEq, Repr

def refuse {α : Type} (fault : Fault) (behind : List Char) : Except Refusal α :=
  .error ⟨fault, behind.count '\n'⟩

-- What was read, and the text behind it.
abbrev Rest (α : Type) := α × List Char

def isBlank (c : Char) : Bool :=
  c = ' ' || c = '\t'

-- Characters that end a word.
def endsWord (c : Char) : Bool :=
  isBlank c || "\n|&;<>()".toList.contains c

-- Characters that mean something inside a word.
def isActive (c : Char) : Bool :=
  "'\"\\$`".toList.contains c

def isNameStart (c : Char) : Bool :=
  c.isAlpha || c = '_'

def isNamePart (c : Char) : Bool :=
  c.isAlphanum || c = '_'

def isName (text : List Char) : Bool :=
  match text with
  | [] => false
  | c :: rest => isNameStart c && rest.all isNamePart

-- Passes over blanks, joined lines, and a comment.
def skipBlanks : List Char → List Char
  | ' ' :: rest => skipBlanks rest
  | '\t' :: rest => skipBlanks rest
  | '\\' :: '\n' :: rest => skipBlanks rest
  | '#' :: rest => rest.dropWhile (· ≠ '\n')
  | text => text

def skipLinesWithin : Nat → List Char → List Char
  | 0, text => text
  | fuel + 1, text =>
    match skipBlanks text with
    | '\n' :: rest => skipLinesWithin fuel rest
    | text => text

def skipLines (text : List Char) : List Char :=
  skipLinesWithin (text.length + 1) text

def reserved : List String :=
  ["if", "then", "else", "elif", "fi", "do", "done", "case", "esac", "while", "until", "for",
    "\x7b", "\x7d", "!"]

-- The plain word at the front of a text, if it is reserved.
def keyword? (text : List Char) : Option (String × List Char) :=
  let stops (c : Char) : Bool := endsWord c || isActive c
  let word := String.ofList (text.takeWhile (!stops ·))
  let rest := text.dropWhile (!stops ·)
  if reserved.contains word && !rest.head?.any isActive then some (word, rest) else none

def takeKeyword? (word : String) (text : List Char) : Option (List Char) :=
  match keyword? text with
  | some (w, rest) => if w = word then some rest else none
  | none => none

def inMarks (token : String) : String := "\"" ++ token ++ "\""

def operators : List String := [";;", ";", "&&", "&", "||", "|", "(", ")"]

def operatorAt? (text : List Char) : Option String :=
  operators.find? fun op => op.toList.isPrefixOf text

def isRedirection (text : List Char) : Bool :=
  (text.dropWhile Char.isDigit).head?.any fun c => c = '<' || c = '>'

-- What stands at the front of a text where no reserved word is looked for, as a fault shows it.
def shownPlain (text : List Char) : String :=
  match text with
  | [] => "end of file"
  | '\n' :: _ => "newline"
  | text =>
    match operatorAt? text with
    | some op => inMarks op
    | none => if isRedirection text then "redirection" else "word"

def shownToken (text : List Char) : String :=
  match keyword? text with
  | some (w, _) => inMarks w
  | none => shownPlain text

-- The end of a line counts as read when it is refused.
def refuseAt {α : Type} (token : String) (text : List Char) (expected : Option String) :
    Except Refusal α :=
  refuse (.unexpected token expected) (if text.head? = some '\n' then text.tail else text)

def unexpected {α : Type} (text : List Char) (expected : Option String) : Except Refusal α :=
  refuseAt (shownToken text) text expected

def unexpectedPlain {α : Type} (text : List Char) (expected : Option String) : Except Refusal α :=
  refuseAt (shownPlain text) text expected

def expectKeyword (word : String) (text : List Char) : Except Refusal (List Char) :=
  let text := skipLines text
  match takeKeyword? word text with
  | some rest => .ok rest
  | none => unexpected text (some (inMarks word))

-- Takes everything up to the parenthesis that closes an arithmetic expression.
def takeArithmetic : Nat → List Char → List Char → Option (List Char × List Char)
  | 0, read, ')' :: ')' :: rest => some (read.reverse, rest)
  | depth, read, '(' :: rest => takeArithmetic (depth + 1) ('(' :: read) rest
  | depth, read, ')' :: rest => takeArithmetic (depth - 1) (')' :: read) rest
  | depth, read, c :: rest => takeArithmetic depth (c :: read) rest
  | _, _, [] => none

-- Takes everything up to a backquote; a backslash keeps what follows it, inside of quotes also one.
def takeBackquoted (inQuotes : Bool) : List Char → List Char → Option (List Char × List Char)
  | read, '`' :: rest => some (read.reverse, rest)
  | read, '\\' :: c :: rest =>
    if c = '`' || c = '\\' || c = '$' || (inQuotes && c = '"') then
      takeBackquoted inQuotes (c :: read) rest
    else takeBackquoted inQuotes (c :: '\\' :: read) rest
  | read, c :: rest => takeBackquoted inQuotes (c :: read) rest
  | _, [] => none

-- Cuts the text that is supplied to a command out of the lines behind it: up to a line that ends
-- it, or to the end of the script.
structure Supplied where
  lines : List (List Char)
  rest : Option (List (List Char))

def takeSupplied (stop : List Char) (stripTabs : Bool) : List (List Char) → Supplied
  | [] => ⟨[], none⟩
  | line :: rest =>
    let line := if stripTabs then line.dropWhile (· = '\t') else line
    if line = stop then ⟨[], some rest⟩
    else
      let s := takeSupplied stop stripTabs rest
      ⟨line :: s.lines, s.rest⟩

def spliceSupplied (stop : List Char) (stripTabs : Bool) (text : List Char) :
    List Char × List Char :=
  let line := text.takeWhile (· ≠ '\n')
  let behind := (text.dropWhile (· ≠ '\n')).drop 1
  let s := takeSupplied stop stripTabs (Text.split '\n' behind)
  match s.rest with
  | none => (Text.join ['\n'] s.lines, line)
  | some rest =>
    (s.lines.flatMap (· ++ ['\n']),
      line ++ (if rest.isEmpty then [] else '\n' :: Text.join ['\n'] rest))

def partText : Part → List Char
  | .text chars _ => chars
  | _ => []

def isQuoted : Part → Bool
  | .text _ quoted => quoted
  | _ => false

-- The name and the value of an assignment, if a word is one.
def assignment? (word : Word) : Option (String × Word) :=
  match word with
  | .text chars false :: rest =>
    let name := chars.takeWhile (· ≠ '=')
    match chars.dropWhile (· ≠ '=') with
    | '=' :: value =>
      if isName name then
        some (String.ofList name, if value.isEmpty then rest else .text value false :: rest)
      else none
    | _ => none
  | _ => none

def specialNames : List Char := "@*#?-$!".toList

-- Where a quoted text ends.
inductive Stop where
  | quote
  | brace
  | never
  deriving DecidableEq

def isStop (s : Stop) (c : Char) : Bool :=
  match s with
  | .quote => c = '"'
  | .brace => c = '\x7d'
  | .never => false

def changeOf (orEmpty : Bool) (mark : Char) (word : Word) : Option Change :=
  match mark with
  | '-' => some (.default orEmpty word)
  | '=' => some (.assign orEmpty word)
  | '?' => some (.require orEmpty word)
  | '+' => some (.alternative orEmpty word)
  | _ => none

-- Whether no further command of a list can stand here.
def endsList (text : List Char) : Bool :=
  match text with
  | [] => true
  | ')' :: _ => true
  | ';' :: ';' :: _ => true
  | '\n' :: _ => true
  | _ =>
    match keyword? text with
    | some (w, _) => ["then", "else", "elif", "fi", "do", "done", "esac", "\x7d"].contains w
    | none => false

-- Commands that belong to the language: assignments before them stay, and a fault in them ends the
-- shell. No function can have their names.
def languageNames : List String :=
  [".", ":", "break", "continue", "eval", "exec", "exit", "export", "local", "readonly", "return",
    "set", "shift", "times", "trap", "unset"]

-- A word and the parenthesis behind it, with which a function begins.
def functionName? (text : List Char) : Option (List Char × List Char) :=
  let name := text.takeWhile (!endsWord ·)
  match skipBlanks (text.drop name.length) with
  | '(' :: rest =>
    let assigns := isName (name.takeWhile (· ≠ '=')) && name.contains '='
    if name.isEmpty || name.any isActive || assigns then none else some (name, rest)
  | _ => none

mutual

-- The parts of a word. Inside braces only the closing brace ends it.
def parts (total : Nat) : Nat → Bool → List Char → Except Refusal (Rest Word)
  | 0, _, text => .ok ([], text)
  | fuel + 1, inBraces, text =>
    match text with
    | [] => .ok ([], [])
    | '\x27' :: rest =>
      match rest.dropWhile (· ≠ '\x27') with
      | [] => refuse .unterminatedQuote []
      | _ :: behind => do
        let (more, behind) ← parts total fuel inBraces behind
        .ok (.text (rest.takeWhile (· ≠ '\x27')) true :: more, behind)
    | '"' :: rest => do
      let (inner, rest) ← quotedParts total fuel .quote rest
      let (more, rest) ← parts total fuel inBraces rest
      .ok ((if inner.isEmpty then [.text [] true] else inner) ++ more, rest)
    | '\\' :: '\n' :: rest => parts total fuel inBraces rest
    | '\\' :: c :: rest => do
      let (more, rest) ← parts total fuel inBraces rest
      .ok (.text [c] true :: more, rest)
    | '$' :: rest => do
      let (part, rest) ← dollar total fuel false rest
      let (more, rest) ← parts total fuel inBraces rest
      .ok (part :: more, rest)
    | '`' :: rest => do
      let (part, rest) ← backquote total fuel false rest
      let (more, rest) ← parts total fuel inBraces rest
      .ok (part :: more, rest)
    | c :: rest =>
      if if inBraces then c = '\x7d' else endsWord c then .ok ([], c :: rest)
      else
        let isPlain (c : Char) : Bool :=
          !isActive c && !(if inBraces then c = '\x7d' else endsWord c)
        let (plain, behind) := ((c :: rest).takeWhile isPlain, (c :: rest).dropWhile isPlain)
        if plain.isEmpty then do
          let (more, rest) ← parts total fuel inBraces rest
          .ok (.text [c] false :: more, rest)
        else do
          let (more, behind) ← parts total fuel inBraces behind
          .ok (.text plain false :: more, behind)

-- The parts of a text in double quotes, and what follows the end of it.
def quotedParts (total : Nat) : Nat → Stop → List Char → Except Refusal (Rest Word)
  | 0, _, text => .ok ([], text)
  | fuel + 1, stop, text =>
    match text with
    | [] =>
      match stop with
      | .quote => refuse .unterminatedQuote []
      | .brace => refuse .missingBrace []
      | .never => .ok ([], [])
    | '\\' :: c :: rest =>
      if c = '\n' then quotedParts total fuel stop rest
      else if c = '$' || c = '`' || c = '"' || c = '\\' || isStop stop c then do
        let (more, rest) ← quotedParts total fuel stop rest
        .ok (.text [c] true :: more, rest)
      else do
        let (more, rest) ← quotedParts total fuel stop (c :: rest)
        .ok (.text ['\\'] true :: more, rest)
    | '$' :: rest => do
      let (part, rest) ← dollar total fuel true rest
      let (more, rest) ← quotedParts total fuel stop rest
      .ok (part :: more, rest)
    | '`' :: rest => do
      let (part, rest) ← backquote total fuel true rest
      let (more, rest) ← quotedParts total fuel stop rest
      .ok (part :: more, rest)
    | c :: rest =>
      if isStop stop c then .ok ([], rest)
      else if c = '"' && stop = .brace then do
        let (inner, rest) ← quotedParts total fuel .quote rest
        let (more, rest) ← quotedParts total fuel stop rest
        .ok (inner ++ more, rest)
      else
        let isPlain (c : Char) : Bool := c ≠ '\\' && c ≠ '$' && c ≠ '`' &&
          !isStop stop c && !(c = '"' && stop = .brace)
        let (plain, behind) := ((c :: rest).takeWhile isPlain, (c :: rest).dropWhile isPlain)
        if plain.isEmpty then do
          let (more, rest) ← quotedParts total fuel stop rest
          .ok (.text [c] true :: more, rest)
        else do
          let (more, behind) ← quotedParts total fuel stop behind
          .ok (.text plain true :: more, behind)

-- What a dollar sign begins.
def dollar (total : Nat) : Nat → Bool → List Char → Except Refusal (Rest Part)
  | 0, _, text => .ok (.text ['$'] true, text)
  | fuel + 1, quoted, text =>
    match text with
    | '(' :: '(' :: rest =>
      match takeArithmetic 0 [] rest with
      | none => refuse .missingParentheses []
      | some (inner, rest) => do
        let (expression, _) ← quotedParts total fuel .never inner
        .ok (.arithmetic expression quoted, rest)
    | '(' :: rest => do
      let (body, rest) ← list total fuel false rest
      match skipLines rest with
      | ')' :: rest => .ok (.command body quoted, rest)
      | rest => unexpected rest (some (inMarks ")"))
    | '\x7b' :: rest => braces total fuel quoted rest
    | c :: rest =>
      if isNameStart c then
        .ok (.parameter (String.ofList ((c :: rest).takeWhile isNamePart)) .none quoted,
          (c :: rest).dropWhile isNamePart)
      else if c.isDigit || specialNames.contains c then
        .ok (.parameter (String.singleton c) .none quoted, rest)
      else .ok (.text ['$'] quoted, c :: rest)
    | [] => .ok (.text ['$'] quoted, [])

-- A parameter in braces. What is wrong with it shows only when it is used.
def braces (total : Nat) : Nat → Bool → List Char → Except Refusal (Rest Part)
  | 0, _, _ => refuse .missingBrace []
  | fuel + 1, inQuotes, text => do
    let nameOf (text : List Char) : List Char × List Char :=
      match text with
      | c :: rest =>
        if isNameStart c then (text.takeWhile isNamePart, text.dropWhile isNamePart)
        else if c.isDigit then (text.takeWhile Char.isDigit, text.dropWhile Char.isDigit)
        else if specialNames.contains c then ([c], rest)
        else ([], text)
      | [] => ([], [])
    let untilBrace (asQuoted : Bool) (rest : List Char) : Except Refusal (Rest Word) := do
      if asQuoted then quotedParts total fuel .brace rest
      else
        let (word, rest) ← parts total fuel true rest
        match rest with
        | '\x7d' :: rest => .ok (word, rest)
        | _ => refuse .missingBrace []
    let plain (text : List Char) : Except Refusal (Rest Part) := do
      let (name, rest) := nameOf text
      let name := String.ofList name
      let changed (mark : Char) (orEmpty : Bool) (rest : List Char) :
          Except Refusal (Rest Part) := do
        let (word, rest) ← untilBrace inQuotes rest
        .ok (.parameter name ((changeOf orEmpty mark word).getD .malformed) inQuotes, rest)
      let dropped (change : Bool → Word → Change) (longest : Bool) (rest : List Char) :
          Except Refusal (Rest Part) := do
        let (word, rest) ← untilBrace false rest
        .ok (.parameter name (change longest word) inQuotes, rest)
      if name.isEmpty then do
        let (_, rest) ← untilBrace inQuotes rest
        .ok (.parameter name .malformed inQuotes, rest)
      else
        match rest with
        | '\x7d' :: rest => .ok (.parameter name .none inQuotes, rest)
        | ':' :: mark :: rest => changed mark true rest
        | '#' :: '#' :: rest => dropped .dropFront true rest
        | '#' :: rest => dropped .dropFront false rest
        | '%' :: '%' :: rest => dropped .dropBack true rest
        | '%' :: rest => dropped .dropBack false rest
        | mark :: rest => changed mark false rest
        | [] => refuse .missingBrace []
    match text with
    | '#' :: rest =>
      let (name, behind) := nameOf rest
      match behind with
      | '\x7d' :: behind =>
        if name.isEmpty then plain text
        else .ok (.parameter (String.ofList name) .length inQuotes, behind)
      | _ => plain text
    | text => plain text

-- A command in backquotes.
def backquote (total : Nat) : Nat → Bool → List Char → Except Refusal (Rest Part)
  | 0, _, _ => refuse .openBackquote []
  | fuel + 1, inQuotes, text =>
    match takeBackquoted inQuotes [] text with
    | none => refuse .openBackquote []
    | some (inner, rest) => do
      let (body, behind) ← list total fuel false inner
      match skipLines behind with
      | [] => .ok (.command body inQuotes, rest)
      | behind => unexpected behind none

def redirections (total : Nat) : Nat → List Char → Except Refusal (Rest (List Redirection))
  | 0, text => .ok ([], text)
  | fuel + 1, text => do
    match ← redirection total fuel (skipBlanks text) with
    | (none, text) => .ok ([], text)
    | (some r, text) => do
      let (more, text) ← redirections total fuel text
      .ok (r :: more, text)

def redirection (total : Nat) : Nat → List Char → Except Refusal (Rest (Option Redirection))
  | 0, text => .ok (none, text)
  | fuel + 1, text => do
    let digits := text.takeWhile Char.isDigit
    let rest := text.dropWhile Char.isDigit
    let descriptor (usual : Nat) : Nat :=
      if digits.isEmpty then usual else digits.foldl (fun n c => 10 * n + (c.toNat - 48)) 0
    let target (text : List Char) : Except Refusal (Rest Word) := do
      let text := skipBlanks text
      let (word, rest) ← parts total fuel false text
      if word.isEmpty then unexpected text none else .ok (word, rest)
    let supplied (stripTabs : Bool) (text : List Char) :
        Except Refusal (Rest (Option Redirection)) := do
      let (word, rest) ← target text
      let (body, rest) := spliceSupplied (word.flatMap partText) stripTabs rest
      if word.any isQuoted then .ok (some (.supply (descriptor 0) [.text body true]), rest)
      else
        let (inner, _) ← quotedParts total fuel .never body
        .ok (some (.supply (descriptor 0) inner), rest)
    match rest with
    | '<' :: '<' :: '-' :: rest => supplied true rest
    | '<' :: '<' :: rest => supplied false rest
    | '<' :: '&' :: rest => do
      let (word, rest) ← target rest
      .ok (some (.duplicate (descriptor 0) word), rest)
    | '<' :: '>' :: rest => do
      let (word, rest) ← target rest
      .ok (some (.update (descriptor 0) word), rest)
    | '<' :: rest => do
      let (word, rest) ← target rest
      .ok (some (.read (descriptor 0) word), rest)
    | '>' :: '>' :: rest => do
      let (word, rest) ← target rest
      .ok (some (.write (descriptor 1) word true), rest)
    | '>' :: '&' :: rest => do
      let (word, rest) ← target rest
      .ok (some (.duplicate (descriptor 1) word), rest)
    | '>' :: '|' :: rest => do
      let (word, rest) ← target rest
      .ok (some (.write (descriptor 1) word false), rest)
    | '>' :: rest => do
      let (word, rest) ← target rest
      .ok (some (.write (descriptor 1) word false), rest)
    | _ => .ok (none, text)

-- Assignments, words and redirections of a simple command.
def simple (total : Nat) : Nat → Bool → List Char →
    Except Refusal (Rest (List (String × Word) × List Word × List Redirection))
  | 0, _, text => .ok (([], [], []), text)
  | fuel + 1, named, text => do
    let text := skipBlanks text
    match ← redirection total fuel text with
    | (some r, text) => do
      let ((assigned, words, more), text) ← simple total fuel named text
      .ok ((assigned, words, r :: more), text)
    | (none, text) => do
      let (word, rest) ← parts total fuel false text
      if word.isEmpty then .ok (([], [], []), text)
      else
        match if named then none else assignment? word with
        | some a => do
          let ((assigned, words, more), rest) ← simple total fuel false rest
          .ok ((a :: assigned, words, more), rest)
        | none => do
          let ((assigned, words, more), rest) ← simple total fuel true rest
          .ok ((assigned, word :: words, more), rest)

-- What follows the condition of an `if` or `elif`.
def conditional (total : Nat) : Nat → List Char → Except Refusal (Rest Command)
  | 0, text => unexpected text none
  | fuel + 1, text => do
    let (condition, text) ← list total fuel true text
    let text ← expectKeyword "then" text
    let (first, text) ← list total fuel true text
    let text := skipLines text
    match keyword? text with
    | some ("elif", rest) => do
      let (second, rest) ← conditional total fuel rest
      .ok (.conditional condition first second, rest)
    | some ("else", rest) => do
      let (second, rest) ← list total fuel true rest
      let rest ← expectKeyword "fi" rest
      .ok (.conditional condition first second, rest)
    | some ("fi", rest) => .ok (.conditional condition first .nothing, rest)
    | _ => unexpected text (some (inMarks "fi"))

def doGroup (total : Nat) : Nat → List Char → Except Refusal (Rest Command)
  | 0, text => unexpected text none
  | fuel + 1, text => do
    let text ← expectKeyword "do" text
    let (body, text) ← list total fuel true text
    let text ← expectKeyword "done" text
    .ok (body, text)

def wordList (total : Nat) : Nat → List Char → Except Refusal (Rest (List Word))
  | 0, text => .ok ([], text)
  | fuel + 1, text => do
    let text := skipBlanks text
    let (word, rest) ← parts total fuel false text
    if word.isEmpty then .ok ([], text)
    else
      let (more, rest) ← wordList total fuel rest
      .ok (word :: more, rest)

def each (total : Nat) : Nat → List Char → Except Refusal (Rest Command)
  | 0, text => unexpected text none
  | fuel + 1, text => do
    let text := skipBlanks text
    let name := text.takeWhile isNamePart
    let rest := skipLines (text.dropWhile isNamePart)
    let isWhole := (text.dropWhile isNamePart).head?.all endsWord
    if !isName name || !isWhole then
      refuse .badLoopName (if text.head? = some '\n' then text.tail else text)
    else
      let name := String.ofList name
      let isIn := rest.takeWhile (fun c => !endsWord c && !isActive c) = ['i', 'n']
      if isIn then do
        let (words, rest) ← wordList total fuel (rest.drop 2)
        match rest with
        | '\n' :: rest => do
          let (body, rest) ← doGroup total fuel rest
          .ok (.each name (some words) body, rest)
        | ';' :: rest =>
          if rest.head? = some ';' then unexpectedPlain (';' :: rest) none
          else do
            let (body, rest) ← doGroup total fuel rest
            .ok (.each name (some words) body, rest)
        | rest => unexpectedPlain rest none
      else do
        let rest := match skipBlanks rest with
          | ';' :: rest => rest
          | rest => rest
        let (body, rest) ← doGroup total fuel rest
        .ok (.each name none body, rest)

-- The patterns of a clause. Whatever stands in the place of a pattern is taken for one.
def patterns (total : Nat) : Nat → List Char → Except Refusal (Rest (List Word))
  | 0, text => .ok ([], text)
  | fuel + 1, text => do
    let text := skipBlanks text
    let (word, behind) ← parts total fuel false text
    let rest := if word.isEmpty then text.drop ((operatorAt? text).getD " ").length else behind
    match skipBlanks rest with
    | '|' :: '|' :: rest => unexpectedPlain ('|' :: '|' :: rest) (some (inMarks ")"))
    | '|' :: rest => do
      let (more, rest) ← patterns total fuel rest
      .ok (word :: more, rest)
    | ')' :: rest => .ok ([word], rest)
    | rest => unexpectedPlain rest (some (inMarks ")"))

def clauses (total : Nat) : Nat → List Char → Except Refusal (Rest (List (List Word × Command)))
  | 0, text => unexpected text none
  | fuel + 1, text => do
    let text := skipLines text
    match takeKeyword? "esac" text with
    | some rest => .ok ([], rest)
    | none => do
      let text := match text with
        | '(' :: rest => rest
        | text => text
      let (ps, rest) ← patterns total fuel text
      let (body, rest) ← list total fuel false rest
      let rest := skipLines rest
      match takeKeyword? "esac" rest, rest with
      | some rest, _ => .ok ([(ps, body)], rest)
      | none, ';' :: ';' :: rest => do
        let (more, rest) ← clauses total fuel rest
        .ok ((ps, body) :: more, rest)
      | none, rest => unexpected rest (some (inMarks ";;"))

def choice (total : Nat) : Nat → List Char → Except Refusal (Rest Command)
  | 0, text => unexpected text none
  | fuel + 1, text => do
    let text := skipBlanks text
    let (word, rest) ← parts total fuel false text
    if word.isEmpty then unexpectedPlain text (some "word")
    else
      let rest := skipLines rest
      if rest.takeWhile (fun c => !endsWord c && !isActive c) = ['i', 'n'] then do
        let (cs, rest) ← clauses total fuel (rest.drop 2)
        .ok (.choice word cs, rest)
      else unexpected rest (some (inMarks "in"))

-- A compound command, if one begins here.
def compound (total : Nat) : Nat → List Char → Except Refusal (Rest (Option Command))
  | 0, text => .ok (none, text)
  | fuel + 1, text =>
    match text with
    | '(' :: rest => do
      let (body, rest) ← list total fuel true rest
      match skipLines rest with
      | ')' :: rest => .ok (some (.subshell body), rest)
      | rest => unexpected rest (some (inMarks ")"))
    | text =>
      match keyword? text with
      | some ("\x7b", rest) => do
        let (body, rest) ← list total fuel true rest
        let rest ← expectKeyword "\x7d" rest
        .ok (some body, rest)
      | some ("if", rest) => do
        let (c, rest) ← conditional total fuel rest
        .ok (some c, rest)
      | some ("while", rest) => do
        let (condition, rest) ← list total fuel true rest
        let (body, rest) ← doGroup total fuel rest
        .ok (some (.loop false condition body), rest)
      | some ("until", rest) => do
        let (condition, rest) ← list total fuel true rest
        let (body, rest) ← doGroup total fuel rest
        .ok (some (.loop true condition body), rest)
      | some ("for", rest) => do
        let (c, rest) ← each total fuel rest
        .ok (some c, rest)
      | some ("case", rest) => do
        let (c, rest) ← choice total fuel rest
        .ok (some c, rest)
      | _ => .ok (none, text)

-- One command with its redirections.
def command (total : Nat) : Nat → List Char → Except Refusal (Rest Command)
  | 0, text => unexpected text none
  | fuel + 1, text => do
    let text := skipBlanks text
    match ← compound total fuel text with
    | (some c, rest) => do
      let (rs, rest) ← redirections total fuel rest
      let line := 1 + total - text.count '\n'
      .ok (if rs.isEmpty then c else .redirected line c rs, rest)
    | (none, text) => do
      if (keyword? text).isSome then unexpected text none
      else
        match functionName? text with
        | some (name, rest) =>
          match skipBlanks rest with
          | ')' :: rest =>
            if !isName name || languageNames.contains (String.ofList name) then
              refuse .badFunctionName rest
            else do
              let (body, rest) ← command total fuel (skipLines rest)
              .ok (.function (String.ofList name) body, rest)
          | rest => unexpectedPlain rest (some (inMarks ")"))
        | none =>
          let line := 1 + total - text.count '\n'
          let ((assigned, words, rs), rest) ← simple total fuel false text
          if assigned.isEmpty && words.isEmpty && rs.isEmpty then unexpected text none
          else .ok (.simple line assigned words rs, rest)

def stages (total : Nat) : Nat → List Char → Except Refusal (Rest (List Command))
  | 0, text => unexpected text none
  | fuel + 1, text => do
    let (c, rest) ← command total fuel text
    match skipBlanks rest with
    | '|' :: '|' :: _ => .ok ([c], rest)
    | '|' :: rest => do
      let (more, rest) ← stages total fuel (skipLines rest)
      .ok (c :: more, rest)
    | rest => .ok ([c], rest)

def pipeline (total : Nat) : Nat → List Char → Except Refusal (Rest Command)
  | 0, text => unexpected text none
  | fuel + 1, text => do
    let negated := takeKeyword? "!" (skipBlanks text)
    let (cs, rest) ← stages total fuel (negated.getD text)
    let c := match cs with
      | [c] => c
      | cs => .pipeline cs
    .ok (if negated.isSome then .negation c else c, rest)

def andOr (total : Nat) : Nat → Command → List Char → Except Refusal (Rest Command)
  | 0, c, text => .ok (c, text)
  | fuel + 1, c, text =>
    match skipBlanks text with
    | '&' :: '&' :: rest => do
      let (second, rest) ← pipeline total fuel (skipLines rest)
      andOr total fuel (.both c second) rest
    | '|' :: '|' :: rest => do
      let (second, rest) ← pipeline total fuel (skipLines rest)
      andOr total fuel (.either c second) rest
    | rest => .ok (c, rest)

-- Commands on one line, or up to the end of what is around them if `multiline` is set.
def items (total : Nat) : Nat → Bool → Command → List Char → Except Refusal (Rest Command)
  | 0, _, _, text => unexpected text none
  | fuel + 1, multiline, before, text => do
    let text := if multiline then skipLines text else skipBlanks text
    if endsList text then .ok (before, text)
    else
      let (first, rest) ← pipeline total fuel text
      let (c, rest) ← andOr total fuel first rest
      let joined (c : Command) : Command :=
        match before with
        | .nothing => c
        | before => .sequence before c
      match skipBlanks rest with
      | ';' :: ';' :: _ => .ok (joined c, rest)
      | ';' :: rest => items total fuel multiline (joined c) rest
      | '&' :: rest => items total fuel multiline (joined (.background c)) rest
      | '\n' :: rest =>
        if multiline then items total fuel multiline (joined c) rest
        else .ok (joined c, '\n' :: rest)
      | rest => .ok (joined c, rest)

-- Commands on any number of lines. Where one is wanted, only the end of the script may stand in its
-- place.
def list (total : Nat) : Nat → (wanted : Bool) → List Char → Except Refusal (Rest Command)
  | 0, _, text => unexpected text none
  | fuel + 1, wanted, text =>
    let start := skipLines text
    if wanted && !start.isEmpty && endsList start then unexpected start none
    else items total fuel true .nothing text

end

-- A script: the commands of its lines, and the fault at which reading ends, with its line.
structure Script where
  commands : List Command
  fault : Option (Nat × Fault)

def linesFrom (total : Nat) : Nat → List Char → Script
  | 0, _ => ⟨[], none⟩
  | fuel + 1, text =>
    match skipLines text with
    | [] => ⟨[], none⟩
    | text =>
      let read : Except Refusal (Rest Command) := do
        let (c, rest) ← items total (8 * text.length + 64) false .nothing text
        match skipBlanks rest with
        | [] => .ok (c, [])
        | '\n' :: rest => .ok (c, rest)
        | rest => unexpected rest none
      match read with
      | .error r => ⟨[], some (1 + total - r.unread, r.fault)⟩
      | .ok (c, rest) =>
        let s := linesFrom total fuel rest
        { s with commands := c :: s.commands }

-- The commands of a script. Those on the lines before a fault are commands still.
def script (text : String) : Script :=
  let chars := text.toList
  linesFrom (chars.count '\n') (chars.length + 1) chars

end CourseAudit.Shell.Parser
