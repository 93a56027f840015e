import CourseAudit.Text.Split

/-!
UTF-8. `encode` writes a text as bytes. `decode?` reads a byte string that must be well formed, and
`decodeLossy` reads any byte string: each longest piece that begins a character but does not
complete it, and each byte that begins none, becomes one replacement character.

Both readers are one machine that takes a byte at a time.
-/
namespace CourseAudit.Text.Utf8

abbrev Bytes := List UInt8

def encode (text : List Char) : Bytes :=
  text.flatMap String.utf8EncodeChar

def encodeString (text : String) : Bytes :=
  encode text.toList

-- The code point that a byte string which is not UTF-8 is shown with.
def replacement : Char := '\uFFFD'

-- Where the machine stands between two bytes.
inductive State where
  | start
  -- Inside a character: the next byte is to lie between `low` and `high`, `more` bytes follow it,
  -- and `value` holds the bits read so far.
  | inside (low high : UInt8) (more : Nat) (value : Nat)
  deriving DecidableEq, Repr

-- What a byte does between two characters: it is a character, it begins one, or it is none.
inductive Lead where
  | whole (c : Char)
  | begins (state : State)
  | stray
  deriving DecidableEq, Repr

def lead (b : UInt8) : Lead :=
  let n := b.toNat
  if n < 0x80 then .whole (Char.ofNat n)
  else if n < 0xC2 then .stray
  else if n < 0xE0 then .begins (.inside 0x80 0xBF 0 (n - 0xC0))
  else if n = 0xE0 then .begins (.inside 0xA0 0xBF 1 0)
  else if n = 0xED then .begins (.inside 0x80 0x9F 1 0xD)
  else if n < 0xF0 then .begins (.inside 0x80 0xBF 1 (n - 0xE0))
  else if n = 0xF0 then .begins (.inside 0x90 0xBF 2 0)
  else if n < 0xF4 then .begins (.inside 0x80 0xBF 2 (n - 0xF0))
  else if n = 0xF4 then .begins (.inside 0x80 0x8F 2 4)
  else .stray

-- The character, if any, that a byte completes inside a character, and the state after it.
def step (low high : UInt8) (more value : Nat) (b : UInt8) : Option (Option Char × State) :=
  if low ≤ b ∧ b ≤ high then
    let value := value * 64 + (b.toNat - 0x80)
    match more with
    | 0 => some (some (Char.ofNat value), .start)
    | more + 1 => some (none, .inside 0x80 0xBF more value)
  else none

def lossyFrom : State → Bytes → List Char
  | .start, [] => []
  | .inside .., [] => [replacement]
  | .start, b :: rest =>
    match lead b with
    | .whole c => c :: lossyFrom .start rest
    | .begins state => lossyFrom state rest
    | .stray => replacement :: lossyFrom .start rest
  | .inside low high more value, b :: rest =>
    match step low high more value b with
    | some (some c, state) => c :: lossyFrom state rest
    | some (none, state) => lossyFrom state rest
    | none =>
      replacement ::
        match lead b with
        | .whole c => c :: lossyFrom .start rest
        | .begins state => lossyFrom state rest
        | .stray => replacement :: lossyFrom .start rest

def decodeLossy (bytes : Bytes) : List Char :=
  lossyFrom .start bytes

def decodeStringLossy (bytes : Bytes) : String :=
  String.ofList (decodeLossy bytes)

def strictFrom : State → Bytes → Option (List Char)
  | .start, [] => some []
  | .inside .., [] => none
  | .start, b :: rest =>
    match lead b with
    | .whole c => (strictFrom .start rest).map (c :: ·)
    | .begins state => strictFrom state rest
    | .stray => none
  | .inside low high more value, b :: rest =>
    match step low high more value b with
    | some (some c, state) => (strictFrom state rest).map (c :: ·)
    | some (none, state) => strictFrom state rest
    | none => none

def decode? (bytes : Bytes) : Option (List Char) :=
  strictFrom .start bytes

-- Where a byte string is UTF-8, the two readers agree.
theorem lossyFrom_eq_of_strictFrom {state : State} {bytes : Bytes} {text : List Char}
    (h : strictFrom state bytes = some text) : lossyFrom state bytes = text := by
  induction bytes generalizing state text with
  | nil => cases state <;> simp_all [strictFrom, lossyFrom]
  | cons b rest ih =>
    cases state with
    | start =>
      rw [strictFrom] at h
      rw [lossyFrom]
      split at h <;> simp_all
      obtain ⟨text', h', rfl⟩ := h
      simp [ih h']
    | inside low high more value =>
      rw [strictFrom] at h
      rw [lossyFrom]
      split at h <;> simp_all
      obtain ⟨text', h', rfl⟩ := h
      simp [ih h']

theorem decodeLossy_eq_of_decode? {bytes : Bytes} {text : List Char}
    (h : decode? bytes = some text) : decodeLossy bytes = text :=
  lossyFrom_eq_of_strictFrom h

end CourseAudit.Text.Utf8
