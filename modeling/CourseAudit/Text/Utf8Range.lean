/-!
Ranges of characters as ranges of bytes. The UTF-8 texts of the characters in a range are the texts
of a few sequences of byte ranges, in which every byte is chosen freely within its range.
-/
namespace CourseAudit.Text.Utf8Range

abbrev Sequence := List (Nat × Nat)

-- The numbers from `low` to `high`, written with `count` digits to base 64 behind the first one.
def digits : Nat → Nat → Nat → List Sequence
  | 0, low, high => [[(low, high)]]
  | count + 1, low, high =>
    let unit := 64 ^ (count + 1)
    let a := low / unit
    let b := high / unit
    if a = b then (digits count (low % unit) (high % unit)).map ((a, a) :: ·)
    else
      let startsFull : Bool := low % unit = 0
      let endsFull : Bool := high % unit = unit - 1
      let first := if startsFull then [] else
        (digits count (low % unit) (unit - 1)).map ((a, a) :: ·)
      let last := if endsFull then [] else (digits count 0 (high % unit)).map ((b, b) :: ·)
      let from' := if startsFull then a else a + 1
      let to' := if endsFull then b + 1 else b
      let middle := if from' < to' then
        [(from', to' - 1) :: List.replicate (count + 1) (0, 63)] else []
      first ++ middle ++ last

-- The characters that are encoded alike: the bytes behind the first, what marks the first byte, and
-- the least and greatest character. No character is a surrogate.
def kinds : List (Nat × Nat × Nat × Nat) := [
  (0, 0, 0, 0x7F), (1, 0xC0, 0x80, 0x7FF), (2, 0xE0, 0x800, 0xD7FF), (2, 0xE0, 0xE000, 0xFFFF),
  (3, 0xF0, 0x10000, 0x10FFFF)]

def mark (lead : Nat) : Sequence → Sequence
  | [] => []
  | (a, b) :: rest => (lead + a, lead + b) :: rest.map fun (a, b) => (0x80 + a, 0x80 + b)

def ofRange (range : Nat × Nat) : List Sequence :=
  kinds.flatMap fun (count, lead, least, greatest) =>
    let low := max range.1 least
    let high := min range.2 greatest
    if low ≤ high then (digits count low high).map (mark lead) else []

end CourseAudit.Text.Utf8Range
