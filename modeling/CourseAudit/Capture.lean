import CourseAudit.Shell.Process
import CourseAudit.Text.Utf8

/-!
How the two outputs of a process are captured. Each of them has a reader, which takes the next bytes
that are there, and both readers put what they take at the end of one buffer. Nothing is said about
whose turn it is.
-/
namespace CourseAudit

open Shell (Stream)
open Text.Utf8 (Bytes)

-- The turn of a reader: from which output it takes how many bytes.
structure Turn where
  stream : Stream
  count : Nat
  deriving DecidableEq, Repr

namespace Turn

-- A reader takes no more than this at once.
def mostBytes : Nat := 4096

end Turn

structure Capture where
  unread : Stream → Bytes
  buffer : Bytes

namespace Capture

def start (outputs : Stream → Bytes) : Capture := ⟨outputs, []⟩

-- A reader without a byte to take has no turn.
def allows (c : Capture) (t : Turn) : Bool :=
  0 < t.count && t.count ≤ Turn.mostBytes && t.count ≤ (c.unread t.stream).length

def read (c : Capture) (t : Turn) : Capture where
  unread s := if s = t.stream then (c.unread s).drop t.count else c.unread s
  buffer := c.buffer ++ (c.unread t.stream).take t.count

def read? (c : Capture) (t : Turn) : Option Capture :=
  if c.allows t then some (c.read t) else none

def readAll? : Capture → List Turn → Option Capture
  | c, [] => some c
  | c, t :: rest => do
    let c ← c.read? t
    c.readAll? rest

-- Both readers are at the end.
def isDone (c : Capture) : Bool :=
  (c.unread .output).isEmpty && (c.unread .errors).isEmpty

-- What is captured if the readers take turns as given, until nothing is left.
def captured? (outputs : Stream → Bytes) (turns : List Turn) : Option Bytes :=
  match (start outputs).readAll? turns with
  | some c => if c.isDone then some c.buffer else none
  | none => none

end Capture
end CourseAudit
