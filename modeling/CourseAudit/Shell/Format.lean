import CourseAudit.Decimal.Fixed
import CourseAudit.Decimal.Read
import CourseAudit.Decimal.Scientific
import CourseAudit.Shell.Arithmetic
import CourseAudit.Text.Utf8

/-!
The texts that `echo` and `printf` write. A backslash begins an escape; octal escapes give bytes, so
the outcome need not be UTF-8.
-/
namespace CourseAudit.Shell.Format

open Text.Utf8 (Bytes)

/-! ### Escapes -/

-- Which escapes there are besides those for control characters and octal digits.
structure Escapes where
  -- A zero may stand in front of three octal digits.
  leadingZero : Bool
  hexadecimal : Bool
  -- One escape ends the text.
  stops : Bool
  quote : Bool

-- A text with its escapes put in, and whether an escape ended it early.
structure Escaped where
  bytes : Bytes
  ended : Bool

def isOctal (c : Char) : Bool := '0' ≤ c && c ≤ '7'

-- The value of at most `count` digits, and what follows them.
def octalDigits (count : Nat) (text : List Char) : Nat × List Char :=
  let digits := (text.take count).takeWhile isOctal
  (digits.foldl (fun n c => 8 * n + (c.toNat - '0'.toNat)) 0, text.drop digits.length)

def simpleEscape? (c : Char) : Option UInt8 :=
  match c with
  | 'a' => some 7
  | 'b' => some 8
  | 'e' => some 27
  | 'f' => some 12
  | 'n' => some 10
  | 'r' => some 13
  | 't' => some 9
  | 'v' => some 11
  | '\\' => some 92
  | _ => none

def hexDigits (text : List Char) : List Char :=
  (text.take 2).takeWhile fun c => (Value.Json5.hexValue? c).isSome

-- What a backslash begins; `none` stands for the end of the text.
def escape (e : Escapes) (rest : List Char) : Option Bytes × List Char :=
  match rest with
  | [] => (some [92], [])
  | c :: behind =>
    if c = 'c' && e.stops then (none, [])
    else if c = '"' && e.quote then (some [34], behind)
    else if c = 'x' && e.hexadecimal && !(hexDigits behind).isEmpty then
      let n := (hexDigits behind).foldl (fun n c => 16 * n + (Value.Json5.hexValue? c).getD 0) 0
      (some [UInt8.ofNat n], behind.drop (hexDigits behind).length)
    else if isOctal c then
      let (n, behind) := octalDigits 3 (if c = '0' && e.leadingZero then behind else rest)
      (some [UInt8.ofNat n], behind)
    else
      match simpleEscape? c with
      | some b => (some [b], behind)
      | none => (some [92], rest)

def escapedWithin (form : Escapes) : Nat → List Char → Escaped
  | 0, _ => ⟨[], false⟩
  | _ + 1, [] => ⟨[], false⟩
  | fuel + 1, '\\' :: rest =>
    match escape form rest with
    | (none, _) => ⟨[], true⟩
    | (some bytes, rest) =>
      let e := escapedWithin form fuel rest
      { e with bytes := bytes ++ e.bytes }
  | fuel + 1, c :: rest =>
    let e := escapedWithin form fuel rest
    { e with bytes := String.utf8EncodeChar c ++ e.bytes }

def escaped (form : Escapes) (text : String) : Escaped :=
  escapedWithin form (text.length + 1) text.toList

/-! ### Echo -/

def joined (args : List String) : String :=
  String.intercalate " " args

def echoText (escapes : Option Escapes) (newline : Bool) (args : List String) : Bytes :=
  let e := match escapes with
    | some form => escaped form (joined args)
    | none => ⟨Text.Utf8.encodeString (joined args), false⟩
  e.bytes ++ if newline && !e.ended then [10] else []

-- The echo of the shell heeds escapes and knows one option.
def shellEcho (args : List String) : Bytes :=
  let escapes : Escapes := ⟨true, false, true, false⟩
  match args with
  | "-n" :: rest => echoText (some escapes) false rest
  | args => echoText (some escapes) true args

structure EchoOptions where
  newline : Bool
  escapes : Bool

def echoOptions (o : EchoOptions) : List String → EchoOptions × List String
  | [] => (o, [])
  | arg :: rest =>
    match arg.toList with
    | '-' :: letters =>
      if letters.isEmpty || !letters.all ("neE".toList.contains ·) then (o, arg :: rest)
      else
        let o := letters.foldl (fun o c =>
          if c = 'n' then { o with newline := false }
          else if c = 'e' then { o with escapes := true } else { o with escapes := false }) o
        echoOptions o rest
    | _ => (o, arg :: rest)

-- The echo that is a program heeds escapes only when asked.
def programEcho (args : List String) : Bytes :=
  let (o, args) := echoOptions ⟨true, false⟩ args
  echoText (if o.escapes then some ⟨true, true, true, false⟩ else none) o.newline args

/-! ### Numbers as arguments -/

inductive Fault where
  | notNumber (text : String)
  | notWhollyNumber (text : String)
  | outOfRange (text : String)
  | badDirective (text : String)
  | missingConversion
  deriving DecidableEq, Repr

-- A number at the front of a text, and what there is to complain of.
def checked {α : Type} (text : String) (value : α) (rest : List Char) (fits : Bool) :
    α × Option Fault :=
  if rest.length = text.length then (value, some (.notNumber text))
  else if !rest.isEmpty then (value, some (.notWhollyNumber text))
  else if !fits then (value, some (.outOfRange text))
  else (value, none)

def unsign (text : List Char) : Bool × List Char :=
  match text with
  | '-' :: rest => (true, rest)
  | '+' :: rest => (false, rest)
  | rest => (false, rest)

-- A whole number in the notation of the shell, or the code of a character behind a quote.
def number (low high : Int) (text : String) : Int × Option Fault :=
  match text.toList with
  | [] => (0, none)
  | q :: quoted =>
    if q = '\x27' || q = '"' then
      match quoted with
      | c :: _ => (c.toNat, none)
      | [] => (0, some (.notNumber text))
    else
      let (negative, unsigned) := unsign (Arithmetic.skip (q :: quoted))
      let (n, rest) := Arithmetic.number unsigned
      let value : Int := if negative then -(n : Int) else n
      let behind := if unsigned.head?.any Char.isDigit then rest else q :: quoted
      checked text (max low (min high value)) behind (low ≤ value && value ≤ high)

-- The longest front of a text that is a decimal number, and what follows it.
def decimalFront (text : List Char) : List Char × List Char :=
  let (whole, rest) := Decimal.takeDigits text
  let (point, places, rest) := match rest with
    | '.' :: behind =>
      let (places, behind) := Decimal.takeDigits behind
      if whole.isEmpty && places.isEmpty then ([], [], rest) else (['.'], places, behind)
    | rest => ([], [], rest)
  let (power, rest) := match rest with
    | e :: behind =>
      let digits := (unsign behind).2
      if (e = 'e' || e = 'E') && digits.head?.any Char.isDigit then
        let after := digits.dropWhile Char.isDigit
        (rest.take (rest.length - after.length), after)
      else ([], rest)
    | [] => ([], [])
  if whole.isEmpty && places.isEmpty then ([], text) else (whole ++ point ++ places ++ power, rest)

def realNumber (text : String) : Float × Option Fault :=
  if text.isEmpty then (0.0, none)
  else
    let (negative, unsigned) := unsign (Arithmetic.skip text.toList)
    let (front, rest) := decimalFront unsigned
    let value := (Decimal.float? front).getD 0.0
    checked text (if negative then -value else value) (if front.isEmpty then text.toList else rest)
      true

/-! ### Directives -/

structure Directive where
  left : Bool
  zero : Bool
  plus : Bool
  space : Bool
  sharp : Bool
  width : Nat
  precision : Option Nat
  conversion : Char

inductive Event where
  | text (bytes : Bytes)
  | fault (f : Fault)

-- The arguments still to be used, and what came of it so far, latest first.
structure Progress where
  args : List String
  used : Bool
  events : List Event
  ended : Bool

namespace Progress

def emit (p : Progress) (bytes : Bytes) : Progress :=
  { p with events := .text bytes :: p.events }

def note (p : Progress) : Option Fault → Progress
  | some f => { p with events := .fault f :: p.events }
  | none => p

-- Gives up at a fault of the format.
def stop (p : Progress) (f : Fault) : Progress :=
  { p.note (some f) with ended := true }

def next (p : Progress) : Option String × Progress :=
  match p.args with
  | [] => (none, { p with used := true })
  | a :: rest => (some a, { p with args := rest, used := true })

end Progress

def padTo (d : Directive) (bytes : Bytes) : Bytes :=
  let missing := List.replicate (d.width - bytes.length) (32 : UInt8)
  if d.left then bytes ++ missing else missing ++ bytes

def digitsIn (base : Nat) (upper : Bool) (n : Nat) : List Char :=
  let digits := Nat.toDigits base n
  if upper then digits.map Char.toUpper else digits

def signText (d : Directive) (negative : Bool) : List Char :=
  if negative then ['-'] else if d.plus then ['+'] else if d.space then [' '] else []

-- Sign and digits with the filling between them.
def filled (d : Directive) (sign digits : List Char) : Bytes :=
  let zeros :=
    if d.zero && !d.left then List.replicate (d.width - sign.length - digits.length) '0' else []
  padTo d (Text.Utf8.encode (sign ++ zeros ++ digits))

def integerBytes (d : Directive) (n : Int) : Bytes :=
  let unsigned := (n % Int.pow 2 64).toNat
  let (sign, digits) := match d.conversion with
    | 'o' =>
      let digits := digitsIn 8 false unsigned
      ([], if d.sharp && digits.head? ≠ some '0' then '0' :: digits else digits)
    | 'u' => ([], digitsIn 10 false unsigned)
    | 'x' => (if d.sharp && n ≠ 0 then ['0', 'x'] else [], digitsIn 16 false unsigned)
    | 'X' => (if d.sharp && n ≠ 0 then ['0', 'X'] else [], digitsIn 16 true unsigned)
    | _ => (signText d (n < 0), digitsIn 10 false n.natAbs)
  match d.precision with
  | some k =>
    let digits := if k = 0 && n = 0 then [] else digits
    filled { d with zero := false } sign (List.replicate (k - digits.length) '0' ++ digits)
  | none => filled d sign digits

def exponentText (upper : Bool) (e : Int) : List Char :=
  let digits := Nat.toDigits 10 e.natAbs
  (if upper then 'E' else 'e') :: (if e < 0 then '-' else '+')
    :: (if digits.length < 2 then '0' :: digits else digits)

def withPoint (sharp : Bool) (whole places : List Char) : List Char :=
  if places.isEmpty && !sharp then whole else whole ++ '.' :: places

def scientificText (sharp upper : Bool) (places : Nat) (s : Decimal.Scientific) : List Char :=
  let digits := Decimal.padLeft (places + 1) (Nat.toDigits 10 s.units)
  withPoint sharp (digits.take 1) (digits.drop 1) ++ exponentText upper s.exponent

def dropZeros (places : List Char) : List Char :=
  (places.reverse.dropWhile (· = '0')).reverse

-- With at most `count` significant digits, by whichever notation the size of the number suggests.
def generalText (sharp upper : Bool) (count mantissa : Nat) (exponent : Int) : List Char :=
  let s := Decimal.scientific (count - 1) mantissa exponent
  let cut (places : List Char) : List Char := if sharp then places else dropZeros places
  let digits := Decimal.padLeft count (Nat.toDigits 10 s.units)
  if s.exponent < -4 || (count : Int) ≤ s.exponent then
    withPoint sharp (digits.take 1) (cut (digits.drop 1)) ++ exponentText upper s.exponent
  else if s.exponent < 0 then
    withPoint sharp ['0'] (cut (List.replicate (-s.exponent - 1).toNat '0' ++ digits))
  else
    let k := s.exponent.toNat + 1
    withPoint sharp (digits.take k) (cut (digits.drop k))

def realBytes (d : Directive) (x : Float) : Bytes :=
  let b := Decimal.Binary.ofFloat x
  let sign := signText d b.negative
  let upper := d.conversion.isUpper
  match b.magnitude with
  | .notANumber => filled { d with zero := false } sign (if upper then "NAN" else "nan").toList
  | .infinite => filled { d with zero := false } sign (if upper then "INF" else "inf").toList
  | .finite mantissa exponent =>
    let places := d.precision.getD 6
    filled d sign (match d.conversion.toLower with
      | 'e' => scientificText d.sharp upper places (Decimal.scientific places mantissa exponent)
      | 'g' => generalText d.sharp upper (max 1 places) mantissa exponent
      | _ =>
        let text := Decimal.placesText places (Decimal.unitsOf places mantissa exponent)
        text.toList ++ if d.sharp && places = 0 then ['.'] else [])

-- How a kind of `printf` reads its arguments.
structure Dialect where
  inFormat : Escapes
  inArgument : Escapes

def shellDialect : Dialect :=
  ⟨⟨false, false, false, false⟩, ⟨true, false, true, false⟩⟩

def programDialect : Dialect :=
  ⟨⟨false, true, true, true⟩, ⟨true, true, true, true⟩⟩

def convert (dialect : Dialect) (d : Directive) (p : Progress) : Progress :=
  let (arg, p) := p.next
  let text := arg.getD ""
  if d.conversion = 's' then
    let bytes := Text.Utf8.encodeString text
    p.emit (padTo d (match d.precision with
      | some k => bytes.take k
      | none => bytes))
  else if d.conversion = 'c' then
    let bytes := Text.Utf8.encodeString text
    p.emit (padTo d (if bytes.isEmpty then [0] else bytes.take 1))
  else if d.conversion = 'b' then
    let e := escaped dialect.inArgument text
    { p.emit (padTo d e.bytes) with ended := e.ended }
  else if "eEfFgG".toList.contains d.conversion then
    let (x, fault) := realNumber text
    (p.note fault).emit (realBytes d x)
  else
    let (n, fault) :=
      if "di".toList.contains d.conversion then number (-Int.pow 2 63) (Int.pow 2 63 - 1) text
      else number (-Int.pow 2 64 + 1) (Int.pow 2 64 - 1) text
    (p.note fault).emit (integerBytes d n)

def isFlag (c : Char) : Bool := "-0+ #".toList.contains c

def starOrDigits (p : Progress) (text : List Char) : Option Int × Progress × List Char :=
  match text with
  | '*' :: rest =>
    let (arg, p) := p.next
    let (n, fault) := number (-Int.pow 2 31) (Int.pow 2 31 - 1) (arg.getD "")
    (some n, p.note fault, rest)
  | text =>
    let digits := text.takeWhile Char.isDigit
    (if digits.isEmpty then none else some (Decimal.digitsValue digits), p,
      text.dropWhile Char.isDigit)

-- What stands behind a percent sign.
def directive (p : Progress) (text : List Char) : Except Fault Directive × Progress × List Char :=
  let flags := text.takeWhile isFlag
  let (width, p, rest) := starOrDigits p (text.dropWhile isFlag)
  let (precision, p, rest) := match rest with
    | '.' :: rest =>
      let (n, p, rest) := starOrDigits p rest
      (some (n.getD 0), p, rest)
    | rest => (none, p, rest)
  let width := width.getD 0
  match rest with
  | c :: behind =>
    if "sdiouxXcbeEfFgG".toList.contains c then
      (.ok ⟨flags.contains '-' || width < 0, flags.contains '0', flags.contains '+',
        flags.contains ' ', flags.contains '#', width.natAbs,
        precision.bind fun k => if k < 0 then none else some k.toNat, c⟩, p, behind)
    else
      let shown := '%' :: text.take (text.length - behind.length)
      (.error (.badDirective (String.ofList shown)), p, behind)
  | [] => (.error .missingConversion, p, [])

-- One pass over a format.
def pass (dialect : Dialect) : Nat → Progress → List Char → Progress
  | 0, p, _ => p
  | _ + 1, p, [] => p
  | fuel + 1, p, '\\' :: rest =>
    match escape dialect.inFormat rest with
    | (none, _) => { p with ended := true }
    | (some bytes, rest) => pass dialect fuel (p.emit bytes) rest
  | fuel + 1, p, '%' :: '%' :: rest => pass dialect fuel (p.emit [37]) rest
  | fuel + 1, p, '%' :: rest =>
    match directive p rest with
    | (.error fault, p, _) => p.stop fault
    | (.ok d, p, rest) =>
      let p := convert dialect d p
      if p.ended then p else pass dialect fuel p rest
  | fuel + 1, p, c :: rest => pass dialect fuel (p.emit (String.utf8EncodeChar c)) rest

-- The format is used again as long as arguments are left and it takes any.
def passes (dialect : Dialect) (format : List Char) : Nat → Progress → Progress
  | 0, p => p
  | fuel + 1, p =>
    let p := pass dialect (format.length + 1) { p with used := false } format
    if p.ended || p.args.isEmpty || !p.used then p else passes dialect format fuel p

-- What a format makes of arguments, and those that it had no use for.
def formatted (dialect : Dialect) (format : String) (args : List String) :
    List Event × List String :=
  let p := passes dialect format.toList (args.length + 1) ⟨args, false, [], false⟩
  (p.events.reverse, if p.ended then [] else p.args)

def textOf (events : List Event) : Bytes :=
  events.flatMap fun
    | .text bytes => bytes
    | .fault _ => []

def faultsOf (events : List Event) : List Fault :=
  events.filterMap fun
    | .text _ => none
    | .fault f => some f

end CourseAudit.Shell.Format
