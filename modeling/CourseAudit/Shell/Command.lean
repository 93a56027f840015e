/-!
Commands of a shell script, as the POSIX shell has them.
-/
namespace CourseAudit.Shell

mutual

-- A piece of a word. What stands in quotes is neither split nor taken for a pattern.
inductive Part where
  | text (chars : List Char) (quoted : Bool)
  | parameter (name : String) (change : Change) (quoted : Bool)
  | command (body : Command) (quoted : Bool)
  | arithmetic (expression : List Part) (quoted : Bool)

-- What becomes of the value of a parameter. With `orEmpty` an empty value counts as none.
inductive Change where
  | none
  | length
  | default (orEmpty : Bool) (word : List Part)
  | assign (orEmpty : Bool) (word : List Part)
  | require (orEmpty : Bool) (word : List Part)
  | alternative (orEmpty : Bool) (word : List Part)
  | dropFront (longest : Bool) (pattern : List Part)
  | dropBack (longest : Bool) (pattern : List Part)
  | malformed

inductive Redirection where
  | read (descriptor : Nat) (path : List Part)
  | write (descriptor : Nat) (path : List Part) (append : Bool)
  -- Both ways, without emptying the file.
  | update (descriptor : Nat) (path : List Part)
  | duplicate (descriptor : Nat) (source : List Part)
  -- A text in the script itself.
  | supply (descriptor : Nat) (text : List Part)

inductive Command where
  | nothing
  -- `line` is the line of the script on which the command begins.
  | simple (line : Nat) (assignments : List (String × List Part)) (words : List (List Part))
      (redirections : List Redirection)
  | sequence (first second : Command)
  | both (first second : Command)
  | either (first second : Command)
  | background (body : Command)
  | pipeline (stages : List Command)
  | negation (body : Command)
  | subshell (body : Command)
  | conditional (condition first second : Command)
  | loop (untilTrue : Bool) (condition body : Command)
  -- Without words, the arguments of the script are gone through.
  | each (name : String) (words : Option (List (List Part))) (body : Command)
  | choice (word : List Part) (clauses : List (List (List Part) × Command))
  | function (name : String) (body : Command)
  | redirected (line : Nat) (body : Command) (redirections : List Redirection)

end

abbrev Word := List Part

instance : Inhabited Command := ⟨.nothing⟩

end CourseAudit.Shell
