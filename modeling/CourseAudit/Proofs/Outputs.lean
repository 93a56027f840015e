import CourseAudit.Proofs.Exchanges
import CourseAudit.Proofs.Paths

/-!
Which output an invocation is about. Outputs of different numbers have different names, so that no
invocation is about two of them. Main statement: `Bench.Concerns.number_eq`.
-/
namespace CourseAudit

-- The output that an invocation makes, which is its last argument, or the program that it runs.
def Invocation.product (i : Invocation) : String :=
  i.args.getLast?.getD i.program

theorem Path.join_injective (p : Path) {x y : String} (hx : x.toList.head? ≠ some '/')
    (hy : y.toList.head? ≠ some '/') (h : p.join x = p.join y) : x = y := by
  rw [join, join, if_neg hx, if_neg hy] at h
  split at h <;> simpa using h

namespace Auditor

theorem toList_twoDigits (n : Nat) :
    (twoDigits n).toList = if n < 10 then '0' :: Nat.toDigits 10 n else Nat.toDigits 10 n := by
  rw [twoDigits]
  split <;> simp

theorem toList_twoDigits_ne_nil (n : Nat) : (twoDigits n).toList ≠ [] := by
  rw [toList_twoDigits]
  split <;> simp [Nat.toDigits_ne_nil]

-- The digits of a number tell the number, also with a zero in front.
theorem ofDigitChars_twoDigits (n : Nat) : Nat.ofDigitChars 10 (twoDigits n).toList 0 = n := by
  rw [toList_twoDigits]
  split
  case isTrue => simp [Nat.ofDigitChars_cons]
  case isFalse => exact Nat.ofDigitChars_ten_toDigits

theorem isDigit_of_mem_twoDigits {n : Nat} {c : Char} (h : c ∈ (twoDigits n).toList) :
    c.isDigit = true := by
  rw [toList_twoDigits] at h
  have hd {c : Char} (h : c ∈ Nat.toDigits 10 n) : c.isDigit = true :=
    Nat.isDigit_of_mem_toDigits (by decide) (by decide) h
  split at h
  case isTrue =>
    rcases List.mem_cons.1 h with rfl | h
    · rfl
    · exact hd h
  case isFalse => exact hd h

def outputName (number : Nat) (tool : Tool) (a : Artifact) : String :=
  twoDigits number ++ "-" ++ tool.shortName ++ "-" ++ a.stem

variable {build : Path} {m n : Nat} {tool tool' : Tool} {a a' : Artifact}

-- The number of an output can be read off the front of its name.
theorem takeWhile_outputName (number : Nat) (tool : Tool) (a : Artifact) :
    (outputName number tool a).toList.takeWhile Char.isDigit = (twoDigits number).toList := by
  simp only [outputName, String.toList_append, List.append_assoc]
  rw [List.takeWhile_append_of_pos fun _ => isDigit_of_mem_twoDigits]
  exact List.append_nil _

theorem number_eq_of_outputName_eq (h : outputName m tool a = outputName n tool' a') : m = n := by
  have := takeWhile_outputName m tool a
  rw [h, takeWhile_outputName] at this
  rw [← ofDigitChars_twoDigits m, ← this, ofDigitChars_twoDigits]

theorem head?_outputName_ne (number : Nat) (tool : Tool) (a : Artifact) :
    (outputName number tool a).toList.head? ≠ some '/' := by
  intro h
  have ⟨rest, hr⟩ := List.head?_eq_some_iff.1 h
  have := takeWhile_outputName number tool a
  rw [hr] at this
  exact toList_twoDigits_ne_nil number this.symm

theorem number_eq_of_outputPath_eq (h : outputPath build m tool a = outputPath build n tool' a') :
    m = n :=
  number_eq_of_outputName_eq <|
    build.join_injective (head?_outputName_ne m tool a) (head?_outputName_ne n tool' a') h

theorem isName_outputName (number : Nat) (ht : '/' ∉ tool.shortName.toList) (a : Artifact) :
    Path.IsName (outputName number tool a) := by
  have hd := takeWhile_outputName number tool a
  have hn := toList_twoDigits_ne_nil number
  refine ⟨?_, ?_, ?_, ?_⟩
  case refine_1 =>
    have hs : '/' ∉ a.stem.toList := a.path.stem_flat
    have hn : '/' ∉ (twoDigits number).toList := fun h => absurd (isDigit_of_mem_twoDigits h) nofun
    simp [outputName, ht, hs, hn]
  all_goals
    intro h
    rw [h] at hd
    exact hn hd.symm

theorem fileName_outputPath (build : Path) (number : Nat) (ht : '/' ∉ tool.shortName.toList)
    (a : Artifact) : (outputPath build number tool a).fileName = outputName number tool a :=
  build.fileName_join (isName_outputName number ht a)

-- Wherever they lie, outputs of different numbers do not have one path.
theorem number_eq_of_outputPath_text_eq {build' : Path} (ht : '/' ∉ tool.shortName.toList)
    (ht' : '/' ∉ tool'.shortName.toList)
    (h : (outputPath build m tool a).text = (outputPath build' n tool' a').text) : m = n := by
  have h : (outputPath build m tool a).fileName = (outputPath build' n tool' a').fileName :=
    congrArg (fun text => (Path.mk text).fileName) h
  rw [fileName_outputPath build m ht, fileName_outputPath build' n ht'] at h
  exact number_eq_of_outputName_eq h

namespace Bench

variable (b : Bench) {i : Invocation}

-- The invocations that make the output of a number, or run it.
inductive Concerns (number : Nat) : Invocation → Prop
  | building (a : Artifact) (sanitizer : Option Tool) :
    Concerns number (b.building number a sanitizer)
  | running (a : Artifact) (tool : Tool) : Concerns number (b.running number a tool)

theorem getLast?_args_building (number : Nat) (a : Artifact) (sanitizer : Option Tool) :
    (b.building number a sanitizer).args.getLast? =
      some (outputPath b.build number (sanitizer.getD .compiler) a).text := by
  simp only [building, Toolchain.compile, Invocation.addArgs, ← List.append_assoc]
  rw [List.append_cons, List.append_cons, List.append_cons, List.getLast?_concat]

theorem args_building_ne_version (number : Nat) (a : Artifact) (sanitizer : Option Tool) :
    (b.building number a sanitizer).args ≠ ["--version"] := by
  intro h
  have := congrArg List.length h
  simp [building, Toolchain.compile, Invocation.addArgs, Invocation.start] at this

theorem args_running (number : Nat) (a : Artifact) (tool : Tool) :
    (b.running number a tool).args = [] := by
  rw [running, Toolchain.run]
  split <;> rfl

theorem program_running (number : Nat) (a : Artifact) (tool : Tool) :
    (b.running number a tool).program = (outputPath b.build number tool a).text := by
  rw [running, Toolchain.run]
  split <;> rfl

variable {b}

theorem product_building (number : Nat) (a : Artifact) (sanitizer : Option Tool) :
    (b.building number a sanitizer).product =
      (outputPath b.build number (sanitizer.getD .compiler) a).text := by
  rw [Invocation.product, getLast?_args_building]
  rfl

theorem product_running (number : Nat) (a : Artifact) (tool : Tool) :
    (b.running number a tool).product = (outputPath b.build number tool a).text := by
  rw [Invocation.product, args_running, program_running]
  rfl

theorem building_ne_running {sanitizer : Option Tool} :
    b.building m a sanitizer ≠ b.running n a' tool := by
  intro h
  have := congrArg (·.args.getLast?) h
  simp [getLast?_args_building, args_running] at this

theorem args_analyzing_ne_nil (analyzer : String) (a : Artifact) :
    (b.analyzing analyzer a).args ≠ [] := by
  simp only [analyzing, Toolchain.analyze, Toolchain.analyzerArgs.eq_def]
  split <;> nofun

-- An analyzer reads the source, whatever was built of it.
theorem not_concerns_analyzing {analyzer : String} : ¬b.Concerns n (b.analyzing analyzer a) := by
  intro h
  generalize hj : b.analyzing analyzer a = j at h
  cases h
  case building => exact absurd (congrArg (·.tool) hj) nofun
  case running => exact args_analyzing_ne_nil analyzer a <| hj ▸ args_running ..

theorem Concerns.exists_product (h : b.Concerns n i) :
    ∃ tool a, i.product = (outputPath b.build n tool a).text := by
  cases h
  case building => exact ⟨_, _, product_building ..⟩
  case running => exact ⟨_, _, product_running ..⟩

theorem Concerns.number_eq (h : b.Concerns m i) (h' : b.Concerns n i) : m = n := by
  have ⟨_, _, hp⟩ := h.exists_product
  have ⟨_, _, hp'⟩ := h'.exists_product
  exact number_eq_of_outputPath_eq (congrArg Path.mk (hp.symm.trans hp'))

-- All events are answers to invocations that are about outputs with such numbers.
def About (b : Bench) (numbers : Nat → Prop) (events : List Event) : Prop :=
  ∀ e ∈ events, ∃ number i answer,
    numbers number ∧ b.Concerns number i ∧ e = .invoked i answer

namespace About

variable {numbers numbers' : Nat → Prop} {events later : List Event}

theorem nil : b.About numbers [] :=
  nofun

theorem cons {answer : Answer} (hn : numbers n) (hi : b.Concerns n i)
    (h : b.About numbers events) : b.About numbers (.invoked i answer :: events) := by
  rintro e (_ | ⟨_, he⟩)
  case head => exact ⟨n, i, answer, hn, hi, rfl⟩
  case tail => exact h e he

theorem append (h : b.About numbers events) (h' : b.About numbers later) :
    b.About numbers (events ++ later) := by
  intro e he
  rcases List.mem_append.1 he with he | he
  case inl => exact h e he
  case inr => exact h' e he

theorem mono (h : b.About numbers events) (hn : ∀ n, numbers n → numbers' n) :
    b.About numbers' events := by
  intro e he
  have ⟨number, i, answer, hp, hc, he⟩ := h e he
  exact ⟨number, i, answer, hn _ hp, hc, he⟩

theorem asked_not_mem (h : b.About numbers events) (program : String) (available : Bool) :
    .asked program available ∉ events := by
  intro he
  have ⟨_, _, _, _, _, he⟩ := h _ he
  cases he

theorem analyzing_not_mem (h : b.About numbers events) (analyzer : String) (a : Artifact)
    (answer : Answer) : .invoked (b.analyzing analyzer a) answer ∉ events := by
  intro he
  have ⟨_, _, _, _, hc, he⟩ := h _ he
  cases he
  exact not_concerns_analyzing hc

theorem not_mem (h : b.About numbers events) (hi : b.Concerns n i) (hn : ¬numbers n)
    (answer : Answer) : .invoked i answer ∉ events := by
  intro he
  have ⟨number, j, _, hp, hc, he⟩ := h _ he
  cases he
  exact hn <| hi.number_eq hc ▸ hp

end About

end Bench
end Auditor
end CourseAudit
