import CourseAudit.Capture
import CourseAudit.Machine
import CourseAudit.Proofs.Decoding
import CourseAudit.Proofs.Sharing

/-!
Two outputs in one buffer. The buffer holds both of them whole and in order, but it may tear what
belongs together: a diagnostic is found wherever nothing of the other output was read in the middle
of it. Main statement: `Capture.captured?_keeps`.
-/
namespace CourseAudit

open Shell (Emission Stream World)
open Text.Utf8 (Bytes encode encodeString decodeLossy decodeStringLossy replacement)

-- What a reader took in one turn.
structure Piece where
  stream : Stream
  bytes  : Bytes

namespace Piece

def turn (p : Piece) : Turn :=
  ⟨p.stream, p.bytes.length⟩

def all (pieces : List Piece) : Bytes :=
  pieces.flatMap (·.bytes)

-- No reader takes nothing, and none takes more than its share.
structure Fits (p : Piece) : Prop where
  pos : 0 < p.bytes.length
  le  : p.bytes.length ≤ Turn.mostBytes

-- What pieces hold of one output.
def ofStream (pieces : List Piece) (s : Stream) : Bytes :=
  all (pieces.filter (·.stream = s))

variable {p : Piece} {pieces more : List Piece} {s : Stream}

theorem all_append : all (pieces ++ more) = all pieces ++ all more :=
  List.flatMap_append

theorem ofStream_append : ofStream (pieces ++ more) s = ofStream pieces s ++ ofStream more s := by
  rw [ofStream, List.filter_append, all_append, ofStream, ofStream]

theorem ofStream_cons :
    ofStream (p :: pieces) s = (if p.stream = s then p.bytes else []) ++ ofStream pieces s := by
  rw [ofStream, List.filter_cons]
  split
  case isTrue hs => rw [if_pos (of_decide_eq_true hs), all, List.flatMap_cons, ofStream, all]
  case isFalse hs => rw [if_neg (mt decide_eq_true hs), ofStream, List.nil_append]

-- The same bytes one by one.
def bytewise (pieces : List Piece) : List Piece :=
  pieces.flatMap fun p => p.bytes.map fun b => ⟨p.stream, [b]⟩

theorem all_bytewise (pieces : List Piece) : all (bytewise pieces) = all pieces := by
  simp [all, bytewise, List.flatMap_assoc, List.flatMap_map]

theorem ofStream_bytewise (pieces : List Piece) (s : Stream) :
    ofStream (bytewise pieces) s = ofStream pieces s := by
  induction pieces
  case nil => rfl
  case cons p pieces hi =>
    rw [bytewise, List.flatMap_cons, ← bytewise, ofStream_append, ofStream_cons, hi]
    by_cases hs : p.stream = s
    case pos => simp [ofStream, all, List.filter_map, List.flatMap_map, Function.comp_def, hs]
    case neg => simp [ofStream, all, List.filter_map, Function.comp_def, hs]

theorem fits_of_mem_bytewise (h : p ∈ bytewise pieces) : p.Fits := by
  obtain ⟨_, _, h⟩ := List.mem_flatMap.mp h
  obtain ⟨_, _, rfl⟩ := List.mem_map.mp h
  exact ⟨Nat.one_pos, Nat.le_of_ble_eq_true rfl⟩

theorem ofStream_eq_all (h : ∀ p ∈ pieces, p.stream = s) : ofStream pieces s = all pieces := by
  rw [ofStream, List.filter_eq_self.mpr fun p hp => decide_eq_true (h p hp)]

end Piece

namespace Turn

-- How many bytes of an output are taken in all.
def taken : List Turn → Stream → Nat
  | [], _ => 0
  | t :: turns, s => (if t.stream = s then t.count else 0) + taken turns s

theorem taken_map_turn (pieces : List Piece) (s : Stream) :
    taken (pieces.map (·.turn)) s = (Piece.ofStream pieces s).length := by
  induction pieces
  case nil => rfl
  case cons p pieces hi =>
    rw [List.map_cons, taken, hi, Piece.ofStream_cons, List.length_append, apply_ite List.length]
    rfl

end Turn

namespace Capture

section

variable {c d e : Capture} {t : Turn} {turns : List Turn} {p : Piece} {pieces more : List Piece}

theorem allows_iff : c.allows t = true ↔
    0 < t.count ∧ t.count ≤ Turn.mostBytes ∧ t.count ≤ (c.unread t.stream).length := by
  simp only [allows, Bool.and_eq_true, decide_eq_true_eq, and_assoc]

theorem unread_read (c : Capture) (t : Turn) (s : Stream) : (c.read t).unread s =
    if s = t.stream then (c.unread s).drop t.count else c.unread s :=
  rfl

-- One capture goes on from another one by the given pieces.
structure Takes (c : Capture) (pieces : List Piece) (d : Capture) : Prop where
  buffer  : d.buffer = c.buffer ++ Piece.all pieces
  unread  : ∀ s, c.unread s = Piece.ofStream pieces s ++ d.unread s
  fits    : ∀ p ∈ pieces, p.Fits

theorem Takes.refl (c : Capture) : c.Takes [] c :=
  ⟨(List.append_nil _).symm, fun _ => rfl, List.forall_mem_nil _⟩

theorem Takes.trans (h : c.Takes pieces d) (h' : d.Takes more e) : c.Takes (pieces ++ more) e where
  buffer    := by rw [h'.buffer, h.buffer, Piece.all_append, List.append_assoc]
  unread s  := by rw [h.unread, h'.unread, Piece.ofStream_append, List.append_assoc]
  fits      := List.forall_mem_append.mpr ⟨h.fits, h'.fits⟩

theorem Takes.eq_of_nil (h : c.Takes [] d) : c = d := by
  obtain ⟨unread, buffer⟩ := c
  obtain ⟨unread', buffer'⟩ := d
  have hu : unread = unread' := funext h.unread
  have hb : buffer' = buffer ++ [] := h.buffer
  rw [hu, hb, List.append_nil]

-- In one turn the buffer gains what one output loses.
theorem takes_of_read? (h : c.read? t = some d) : ∃ p : Piece, p.turn = t ∧ c.Takes [p] d := by
  rw [read?] at h
  split at h
  case isFalse => cases h
  case isTrue ha =>
    cases h
    obtain ⟨hp, hm, hl⟩ := allows_iff.mp ha
    have hc : ((c.unread t.stream).take t.count).length = t.count := List.length_take_of_le hl
    refine ⟨⟨t.stream, (c.unread t.stream).take t.count⟩, ?_, ?_, fun s => ?_, ?_⟩
    case refine_1 => rw [Piece.turn, hc]
    case refine_2 => simp [read, Piece.all]
    case refine_3 =>
      rw [Piece.ofStream_cons, unread_read]
      by_cases hs : s = t.stream
      case pos => simp [hs, Piece.ofStream, Piece.all]
      case neg => simp [hs, Ne.symm hs, Piece.ofStream, Piece.all]
    case refine_4 => exact List.forall_mem_singleton.mpr ⟨hc.symm ▸ hp, hc.symm ▸ hm⟩

theorem exists_read?_of_takes (h : c.Takes (p :: pieces) d) :
    ∃ e, c.read? p.turn = some e ∧ e.Takes pieces d := by
  have ⟨hp, hf⟩ := List.forall_mem_cons.mp h.fits
  have hu : c.unread p.stream =
      p.bytes ++ (Piece.ofStream pieces p.stream ++ d.unread p.stream) := by
    rw [h.unread, Piece.ofStream_cons, if_pos rfl, List.append_assoc]
  have hl : p.bytes.length ≤ (c.unread p.stream).length := by
    rw [hu, List.length_append]
    exact Nat.le_add_right ..
  refine ⟨c.read p.turn, if_pos (allows_iff.mpr ⟨hp.pos, hp.le, hl⟩), ?_, fun s => ?_, hf⟩
  case refine_1 =>
    rw [h.buffer, read, Piece.turn, hu, List.take_left, List.append_assoc]
    rfl
  case refine_2 =>
    rw [unread_read, Piece.turn]
    by_cases hs : s = p.stream
    case pos => rw [if_pos hs, hs, hu, List.drop_left]
    case neg => rw [if_neg hs, h.unread, Piece.ofStream_cons, if_neg (Ne.symm hs), List.nil_append]

-- By induction on the turns. A run of turns is told by the pieces that it takes.
theorem readAll?_eq_some_iff :
    c.readAll? turns = some d ↔
      ∃ pieces : List Piece, pieces.map (·.turn) = turns ∧ c.Takes pieces d := by
  induction turns generalizing c
  case nil =>
    rw [readAll?]
    constructor
    case mp =>
      intro h
      exact ⟨[], rfl, Option.some_inj.mp h ▸ .refl c⟩
    case mpr =>
      rintro ⟨pieces, hp, ht⟩
      cases List.map_eq_nil_iff.mp hp
      exact congrArg some ht.eq_of_nil
  case cons t turns hi =>
    rw [readAll?]
    constructor
    case mp =>
      intro h
      obtain ⟨e, he, hr⟩ := Option.bind_eq_some_iff.mp h
      obtain ⟨p, hp, hc⟩ := takes_of_read? he
      obtain ⟨pieces, hm, hs⟩ := hi.mp hr
      exact ⟨p :: pieces, by rw [List.map_cons, hp, hm], hc.trans hs⟩
    case mpr =>
      rintro ⟨pieces, hm, ht⟩
      obtain ⟨p, rest, rfl, rfl, hr⟩ := List.map_eq_cons_iff.mp hm
      obtain ⟨e, he, hs⟩ := exists_read?_of_takes ht
      exact Option.bind_eq_some_iff.mpr ⟨e, he, hi.mpr ⟨rest, hr, hs⟩⟩

end

variable {outputs : Stream → Bytes} {turns : List Turn} {buffer : Bytes}

-- The buffer is cut into pieces, one for each turn, which make up both outputs.
structure IsCut (outputs : Stream → Bytes) (turns : List Turn) (buffer : Bytes)
    (pieces : List Piece) : Prop where
  turns   : pieces.map (·.turn) = turns
  buffer  : Piece.all pieces = buffer
  outputs : ∀ s, Piece.ofStream pieces s = outputs s
  fits    : ∀ p ∈ pieces, p.Fits

theorem isDone_iff {c : Capture} : c.isDone = true ↔ ∀ s, c.unread s = [] := by
  rw [isDone, Bool.and_eq_true, List.isEmpty_iff, List.isEmpty_iff]
  constructor
  case mp =>
    rintro ⟨ho, he⟩ (_ | _)
    case output => exact ho
    case errors => exact he
  case mpr => exact fun h => ⟨h _, h _⟩

-- What can be captured is what can be cut.
theorem captured?_eq_some_iff :
    captured? outputs turns = some buffer ↔ ∃ pieces, IsCut outputs turns buffer pieces := by
  constructor
  case mp =>
    intro h
    rw [captured?] at h
    split at h
    case h_2 => cases h
    case h_1 c hc =>
      obtain ⟨pieces, hp, ht⟩ := readAll?_eq_some_iff.mp hc
      obtain ⟨hd, hb⟩ := Option.ite_none_right_eq_some.mp h
      refine ⟨pieces, hp, ?_, fun s => ?_, ht.fits⟩
      case refine_1 =>
        have hs : c.buffer = [] ++ Piece.all pieces := ht.buffer
        rw [← Option.some_inj.mp hb, hs, List.nil_append]
      case refine_2 =>
        have hs : outputs s = Piece.ofStream pieces s ++ c.unread s := ht.unread s
        rw [hs, isDone_iff.mp hd, List.append_nil]
  case mpr =>
    rintro ⟨pieces, ht, rfl, ho, hf⟩
    have hr : (start outputs).readAll? turns = some ⟨fun _ => [], Piece.all pieces⟩ :=
      readAll?_eq_some_iff.mpr
        ⟨pieces, ht, rfl, fun s => by rw [List.append_nil, ho s]; rfl, hf⟩
    simp only [captured?, hr]
    rfl

-- Whatever order the outputs arrive in, there are turns that capture it.
theorem exists_captured? (pieces : List Piece) :
    ∃ turns, captured? (Piece.ofStream pieces) turns = some (Piece.all pieces) :=
  ⟨_, captured?_eq_some_iff.mpr ⟨Piece.bytewise pieces, rfl, Piece.all_bytewise pieces,
    Piece.ofStream_bytewise pieces, fun _ => Piece.fits_of_mem_bytewise⟩⟩

theorem ofStream_pair (outputs : Stream → Bytes) :
    Piece.ofStream [⟨.output, outputs .output⟩, ⟨.errors, outputs .errors⟩] = outputs := by
  funext s
  cases s <;> simp [Piece.ofStream, Piece.all]

/-! ### Stretches of one output -/

-- Nothing of another output is read between two places of this one.
def Undisturbed (turns : List Turn) (s : Stream) (first last : Nat) : Prop :=
  ∃ before between after, turns = before ++ between ++ after ∧ (∀ t ∈ between, t.stream = s) ∧
    Turn.taken before s ≤ first ∧ last ≤ Turn.taken before s + Turn.taken between s

-- An output shows a text, and the text is read without anything in the middle of it.
def Unbroken (outputs : Stream → Bytes) (turns : List Turn) (s : Stream) (text : String) : Prop :=
  ∃ front behind, outputs s = front ++ encodeString text ++ behind ∧
    Undisturbed turns s front.length (front ++ encodeString text).length

theorem infix_of_within {α : Type} {front part behind before between after : List α}
    (h : front ++ part ++ behind = before ++ between ++ after)
    (hf : before.length ≤ front.length)
    (hl : (front ++ part).length ≤ (before ++ between).length) : part <:+: between := by
  have hb : before <+: front :=
    List.prefix_of_prefix_length_le ⟨between ++ after, by rw [← List.append_assoc]⟩
      ⟨part ++ behind, by rw [← List.append_assoc, h]⟩ hf
  have hp : front ++ part <+: before ++ between :=
    List.prefix_of_prefix_length_le ⟨behind, h⟩ (List.prefix_append ..) hl
  obtain ⟨rest, rfl⟩ := hb
  rw [List.append_assoc, List.prefix_append_right_inj] at hp
  obtain ⟨more, rfl⟩ := hp
  exact ⟨rest, more, rfl⟩

theorem IsCut.infix_of_undisturbed {pieces : List Piece} {s : Stream} {front part behind : Bytes}
    (hc : IsCut outputs turns buffer pieces) (hs : outputs s = front ++ part ++ behind)
    (hu : Undisturbed turns s front.length (front ++ part).length) : part <:+: buffer := by
  obtain ⟨before, between, after, rfl, hb, hf, hl⟩ := hu
  obtain ⟨mine, late, rfl, hm, rfl⟩ := List.map_eq_append_iff.mp hc.turns
  obtain ⟨early, mine, rfl, rfl, rfl⟩ := List.map_eq_append_iff.mp hm
  rw [Turn.taken_map_turn] at hf hl
  rw [Turn.taken_map_turn, ← List.length_append] at hl
  rw [← hc.outputs, Piece.ofStream_append, Piece.ofStream_append] at hs
  have hi := infix_of_within hs.symm hf hl
  rw [Piece.ofStream_eq_all fun p hp => hb p.turn (List.mem_map_of_mem hp)] at hi
  rw [← hc.buffer, Piece.all_append, Piece.all_append]
  exact hi.trans (List.infix_append ..)

theorem IsCut.taken_eq {pieces : List Piece} (hc : IsCut outputs turns buffer pieces) (s : Stream) :
    Turn.taken turns s = (outputs s).length := by
  rw [← hc.turns, Turn.taken_map_turn, hc.outputs]

-- What comes before a piece and after it.
theorem IsCut.exists_of_mem {pieces : List Piece} {p : Piece}
    (hc : IsCut outputs turns buffer pieces) (hp : p ∈ pieces) :
    ∃ early late, pieces = early ++ p :: late ∧ outputs p.stream =
      Piece.ofStream early p.stream ++ p.bytes ++ Piece.ofStream late p.stream := by
  obtain ⟨early, late, rfl⟩ := List.append_of_mem hp
  refine ⟨early, late, rfl, ?_⟩
  rw [← hc.outputs, Piece.ofStream_append, Piece.ofStream_cons, if_pos rfl, List.append_assoc]

-- What is read in one turn is never broken.
theorem IsCut.unbroken_of_infix {pieces : List Piece} {p : Piece} {text : String}
    (hc : IsCut outputs turns buffer pieces) (hp : p ∈ pieces)
    (ht : encodeString text <:+: p.bytes) : Unbroken outputs turns p.stream text := by
  obtain ⟨early, late, rfl, ho⟩ := hc.exists_of_mem hp
  obtain ⟨front, behind, hb⟩ := ht
  have hl : Turn.taken [p.turn] p.stream = p.bytes.length := by simp [Turn.taken, Piece.turn]
  refine ⟨Piece.ofStream early p.stream ++ front, behind ++ Piece.ofStream late p.stream, ?_,
    early.map (·.turn), [p.turn], late.map (·.turn), ?_, List.forall_mem_singleton.mpr rfl, ?_, ?_⟩
  case refine_1 => simp only [ho, ← hb, List.append_assoc]
  case refine_2 => rw [← hc.turns, List.append_assoc, List.map_append]; rfl
  case refine_3 => rw [Turn.taken_map_turn, List.length_append]; exact Nat.le_add_right ..
  case refine_4 =>
    rw [Turn.taken_map_turn, hl, ← hb]
    simp only [List.length_append]
    omega

-- Nothing is in the middle of an output if there is no other one.
theorem IsCut.unbroken_of_alone {pieces : List Piece} {s : Stream} {text : String}
    (hc : IsCut outputs turns buffer pieces) (ha : ∀ s', s' ≠ s → outputs s' = [])
    (ht : encodeString text <:+: outputs s) : Unbroken outputs turns s text := by
  obtain ⟨front, behind, ho⟩ := ht
  refine ⟨front, behind, ho.symm, [], turns, [], ?_, fun t ht => ?_, Nat.zero_le _, ?_⟩
  case refine_1 => rw [List.nil_append, List.append_nil]
  case refine_2 =>
    obtain ⟨p, hp, rfl⟩ := List.mem_map.mp (hc.turns ▸ ht)
    by_contra hn
    obtain ⟨_, _, _, hs⟩ := hc.exists_of_mem hp
    have hb : p.bytes = [] := by simp_all [Piece.turn]
    exact absurd (hc.fits p hp).pos (by simp [hb])
  case refine_3 =>
    rw [hc.taken_eq, ← ho]
    exact Nat.le_trans (List.prefix_append _ behind).length_le (Nat.le_add_left ..)

/-! ### What a capture keeps -/

-- What is known of a buffer whatever the two outputs are and however the readers take turns.
structure Keeps (outputs : Stream → Bytes) (turns : List Turn) (buffer : Bytes) : Prop where
  -- Each output is in the buffer, in order, without a loss, and nothing else is in there.
  cut      : ∃ pieces, IsCut outputs turns buffer pieces
  -- What is shown without a break is matched, on whichever output.
  matched  : ∀ s text, Unbroken outputs turns s text →
    (Matcher.substring text).isMatch (decodeStringLossy buffer) = true
  -- A run is then read as a defect, whatever else was captured.
  detected : ∀ (c : Classifier) (run : ToolRun) (signature : Signature) (text : String)
    (s : Stream),
    run.output = decodeStringLossy buffer → run.timedOut = false → run.tool ≠ .compiler →
    signature ∈ c.table.signaturesFor run.tool → signature.versions.Allows c.major →
    signature.matcher = .substring text → Unbroken outputs turns s text →
    ∃ labels, c.classify run = .defect labels ∧ signature.label ∈ labels
  -- No break is in what is shown in one turn, nor in what is shown on one output alone.
  atOnce   : ∀ pieces, IsCut outputs turns buffer pieces → ∀ p ∈ pieces, ∀ text,
    encodeString text <:+: p.bytes → Unbroken outputs turns p.stream text
  alone    : ∀ s text, (∀ s', s' ≠ s → outputs s' = []) → encodeString text <:+: outputs s →
    Unbroken outputs turns s text

theorem IsCut.isMatch {pieces : List Piece} {s : Stream} {text : String}
    (hc : IsCut outputs turns buffer pieces) (hu : Unbroken outputs turns s text) :
    (Matcher.substring text).isMatch (decodeStringLossy buffer) = true := by
  obtain ⟨front, behind, hs, hu⟩ := hu
  obtain ⟨before, after, hb⟩ := hc.infix_of_undisturbed hs hu
  have hi := Text.Utf8.infix_decodeLossy before text.toList after
  refine Text.contains_iff.mpr ?_
  rw [decodeStringLossy, String.toList_ofList, ← hb]
  exact hi

-- There are turns that capture two outputs, and whichever they are, this is known of the buffer.
theorem captured?_keeps (outputs : Stream → Bytes) :
    (∃ turns buffer, captured? outputs turns = some buffer) ∧
    ∀ turns buffer, captured? outputs turns = some buffer → Keeps outputs turns buffer := by
  constructor
  case left =>
    have ⟨turns, hc⟩ :=
      exists_captured? [⟨.output, outputs .output⟩, ⟨.errors, outputs .errors⟩]
    exact ⟨turns, _, ofStream_pair outputs ▸ hc⟩
  case right =>
    intro turns buffer h
    obtain ⟨pieces, hc⟩ := captured?_eq_some_iff.mp h
    refine ⟨⟨pieces, hc⟩, fun s text hu => hc.isMatch hu, ?_,
      fun _ hc p hp text ht => hc.unbroken_of_infix hp ht,
      fun s text ha ht => hc.unbroken_of_alone ha ht⟩
    intro c run signature text s ho hto ht hs ha hm hu
    refine Classifier.exists_defect_of_finds ht hto hs ⟨ha, ?_⟩
    rw [Signature.isMatch, hm, ho]
    exact hc.isMatch hu

/-! ### What can be torn -/

theorem not_infix_around {α : Type} {front behind : List α} {a : α} (hf : front ≠ [])
    (hb : behind ≠ []) (ha : a ∉ front ++ behind) :
    ¬front ++ behind <:+: front ++ [a] ++ behind := by
  rintro ⟨before, after, h⟩
  have hl : before.length + after.length = 1 := by
    have hl := congrArg List.length h
    simp only [List.length_append, List.length_singleton] at hl
    omega
  rw [List.mem_append, not_or] at ha
  rcases before with _ | ⟨x, before⟩
  case nil =>
    rw [List.nil_append, List.append_assoc, List.append_assoc, List.append_cancel_left_eq] at h
    obtain ⟨y, behind, rfl⟩ := List.exists_cons_of_ne_nil hb
    rw [List.cons_append, List.singleton_append] at h
    exact ha.2 ((List.cons.inj h).1 ▸ List.mem_cons_self)
  case cons =>
    have hn : before = [] ∧ after = [] := by
      simp only [List.length_cons] at hl
      exact ⟨List.length_eq_zero_iff.mp (by omega), List.length_eq_zero_iff.mp (by omega)⟩
    rw [hn.1, hn.2, List.append_nil, ← List.append_assoc, List.append_cancel_right_eq] at h
    have hm := congrArg List.getLast? h
    rw [List.getLast?_concat, List.getLast?_append_of_ne_nil _ hf] at hm
    exact ha.1 (List.mem_of_getLast? hm)

-- Every diagnostic of more than one character can be torn by what is on the other output.
theorem exists_torn {front behind : List Char} (hf : front ≠ []) (hb : behind ≠ [])
    (hn : replacement ∉ front ++ behind) :
    ∃ outputs turns buffer, outputs .errors = encode (front ++ behind) ∧
      captured? outputs turns = some buffer ∧ ¬front ++ behind <:+: decodeLossy buffer := by
  have ⟨turns, hc⟩ := exists_captured?
    [⟨.errors, encode front⟩, ⟨.output, [0xFF]⟩, ⟨.errors, encode behind⟩]
  refine ⟨_, turns, _, ?_, hc, ?_⟩
  case refine_1 => simp [Piece.ofStream, Piece.all, encode]
  case refine_2 =>
    have ho : ∀ b ∈ [(0xFF : UInt8)], Text.Utf8.NeverOccurs b :=
      List.forall_mem_singleton.mpr (.inr <| .inr <| by decide)
    have hd := Text.Utf8.decodeLossy_around front behind ho
    have ht : Piece.all [⟨.errors, encode front⟩, ⟨.output, [0xFF]⟩, ⟨.errors, encode behind⟩] =
        encode front ++ [0xFF] ++ encode behind := by simp [Piece.all]
    rw [ht, hd]
    exact not_infix_around hf hb hn

end Capture

namespace Machine

-- What is read of both outputs, in the order of arrival.
def arrivals (w : World) (stop : Nat) : List Piece :=
  ((w.emissions.reverse.filter (isRead w stop)).mergeSort fun a b => a.time ≤ b.time).map fun e =>
    ⟨e.stream, e.bytes⟩

theorem exists_captured?_outputText (w : World) (stop : Nat) :
    ∃ turns buffer, Capture.captured? (Piece.ofStream (arrivals w stop)) turns = some buffer ∧
      outputText w stop = decodeStringLossy buffer := by
  have ⟨turns, hc⟩ := Capture.exists_captured? (arrivals w stop)
  refine ⟨turns, _, hc, ?_⟩
  rw [outputText, Piece.all, arrivals, List.flatMap_map]

-- The output of a tool on a machine is what some turns of the readers capture.
theorem exists_captured?_of_ran {m : Machine} {i : Invocation} {reply : Reply}
    (h : (m.invoke i).1 = .ran reply) :
    ∃ outputs turns buffer, Capture.captured? outputs turns = some buffer ∧
      reply.output = decodeStringLossy buffer := by
  rw [invoke] at h
  split at h
  case h_1 => cases h
  case h_2 => cases h
  case h_3 launch t _ =>
    obtain rfl := Answer.ran.inj h
    rw [replyOf.eq_def]
    split
    all_goals exact ⟨_, exists_captured?_outputText ..⟩

end Machine

namespace Sample

-- A report on one output while the other one is written to.
def reportBesideProgress : Stream → Bytes
  | .output => encodeString "progress"
  | .errors => encodeString "heap-use-after-free"

def wholeReport : List Turn := [⟨.output, 8⟩, ⟨.errors, 19⟩]

def brokenReport : List Turn := [⟨.errors, 9⟩, ⟨.output, 8⟩, ⟨.errors, 10⟩]

-- The run goes on after the report and ends well.
def reported (output : String) : ToolRun :=
  ⟨.addressSanitizer, "./secure", some 0, output, false⟩

theorem useAfterFree_mem : Signature.substring "heap-use-after-free" ∈
    SignatureTable.standard.signaturesFor .addressSanitizer :=
  List.mem_cons_of_mem _ List.mem_cons_self

theorem wholeReport_unbroken : Capture.Unbroken reportBesideProgress wholeReport .errors
    "heap-use-after-free" :=
  ⟨[], [], rfl, [⟨.output, 8⟩], [⟨.errors, 19⟩], [], rfl, List.forall_mem_singleton.mpr rfl,
    by decide +kernel, by decide +kernel⟩

theorem whole_report_found :
    Capture.captured? reportBesideProgress wholeReport =
        some (encodeString "progressheap-use-after-free") ∧
      ∃ labels, Classifier.classify ⟨.standard, none⟩ (reported "progressheap-use-after-free") =
        .defect labels ∧ "heap-use-after-free" ∈ labels := by
  have hc : Capture.captured? reportBesideProgress wholeReport =
      some (encodeString "progressheap-use-after-free") := by decide +kernel
  have ho : "progressheap-use-after-free" =
      decodeStringLossy (encodeString "progressheap-use-after-free") := by decide +kernel
  exact ⟨hc, ((Capture.captured?_keeps reportBesideProgress).2 _ _ hc).detected ⟨.standard, none⟩
    (reported _) _ _ _ ho rfl (by decide) useAfterFree_mem nofun rfl wholeReport_unbroken⟩

-- The other output is read in the middle of the report.
theorem broken_report_missed :
    Signature.substring "heap-use-after-free" ∈
        SignatureTable.standard.signaturesFor .addressSanitizer ∧
      encodeString "heap-use-after-free" <:+: reportBesideProgress .errors ∧
      Capture.captured? reportBesideProgress brokenReport =
        some (encodeString "heap-use-progressafter-free") ∧
      decodeStringLossy (encodeString "heap-use-progressafter-free") =
        "heap-use-progressafter-free" ∧
      (Matcher.substring "heap-use-after-free").isMatch "heap-use-progressafter-free" = false ∧
      Classifier.classify ⟨.standard, none⟩ (reported "heap-use-progressafter-free") = .clean :=
  ⟨useAfterFree_mem, List.infix_refl _, by decide +kernel, by decide +kernel, by decide +kernel,
    by decide +kernel⟩

end Sample
end CourseAudit
