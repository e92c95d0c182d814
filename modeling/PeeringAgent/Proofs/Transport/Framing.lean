import PeeringAgent.Proofs.Json.Layout
import PeeringAgent.Proofs.Transport.Bytes
import PeeringAgent.Proofs.Wire.RoundTrip
import PeeringAgent.Transport.Channel

/-!
# Reading a stream line by line

Whatever bytes come, a reader delivers what their lines say one by one, blank lines
left out, up to the first that says nothing. What has been written as frames comes
out as it went in.
-/

set_option autoImplicit false

namespace PeeringAgent.Frame

/-- White space in UTF-8, or nothing. -/
def isBlank (line : Bytes) : Bool := (toText? line).any Text.allBlank

/-- The lines of some bytes without the blank ones; line feeds separate them. -/
def frames (bs : Bytes) : List Bytes :=
  (bs.splitOn lineFeed).filter fun line => !isBlank line

section Reading

variable {α : Type} (ofJson? : Json.Value → Option α)

/-- What a line says by itself. -/
def decodeLine (line : Bytes) : Except TransportError α :=
  match toText? line with
  | none => .error notUtf8
  | some text =>
    match Wire.decode? ofJson? text with
    | some a => .ok a
    | none => .error malformed

/-- What a reader makes of it. -/
def Next.ofResult : Except TransportError α → Next α
  | .ok a => .message a
  | .error e => .failure e

/-! ## One line -/

theorem decode_concat (text : List Char) :
    Wire.decode? ofJson? (text ++ ['\n']) = Wire.decode? ofJson? text := by
  rw [Wire.decode?, Json.Value.parse_concat]
  rfl

theorem decode_blank {text : List Char} (blank : Text.allBlank text = true) :
    Wire.decode? ofJson? text = none := by
  rw [Wire.decode?, Json.Value.parse_blank blank]
  rfl

theorem visible_of_decode {text : List Char} {a : α}
    (decoded : Wire.decode? ofJson? text = some a) : Text.allBlank text = false := by
  apply Bool.eq_false_iff.mpr
  intro blank
  rw [decode_blank ofJson? blank] at decoded
  cases decoded

theorem isBlank_concat (line : Bytes) : isBlank (line ++ [lineFeed]) = isBlank line := by
  have feed (text : List Char) : Text.allBlank (text ++ ['\n']) = Text.allBlank text := by
    have newline : Text.isBlank '\n' = true := by decide
    simp [Text.allBlank, newline]
  rw [isBlank, isBlank, toText_concat]
  cases toText? line with
  | none => rfl
  | some text => exact feed text

theorem decodeLine_concat (line : Bytes) :
    decodeLine ofJson? (line ++ [lineFeed]) = decodeLine ofJson? line := by
  rw [decodeLine, decodeLine, toText_concat]
  cases toText? line with
  | none => rfl
  | some text => simp only [Option.map_some, decode_concat]

/-- A reader skips the first line if it is blank, and else goes by what it says. -/
theorem nextWithin_succ {n : Nat} {bs line rest : Bytes} (nonempty : bs ≠ [])
    (split : splitLine bs = (line, rest)) :
    nextWithin ofJson? (n + 1) bs =
      if isBlank line then nextWithin ofJson? n rest
      else (.ofResult (decodeLine ofJson? line), rest) := by
  cases bs with
  | nil => exact absurd rfl nonempty
  | cons b bs =>
    rw [nextWithin, split]
    simp only
    split
    case h_1 unreadable =>
      have visible : isBlank line = false := by rw [isBlank, unreadable, Option.any_none]
      rw [visible, decodeLine, unreadable]
      rfl
    case h_2 text readable =>
      simp only [isBlank, decodeLine, readable, Option.any_some]
      split
      · rfl
      · cases Wire.decode? ofJson? text <;> rfl

/-! ## Lines -/

theorem frames_append (bs cs : Bytes) :
    frames (bs ++ lineFeed :: cs) = frames bs ++ frames cs := by
  rw [frames, List.splitOn_append_cons_self, List.filter_append]
  rfl

theorem frames_of_unbroken {line : Bytes} (unbroken : lineFeed ∉ line) :
    frames line = if isBlank line then [] else [line] := by
  rw [frames, List.splitOn_eq_singleton unbroken]
  cases blank : isBlank line <;> simp [blank]

theorem isBlank_nil : isBlank [] = true := by
  have empty : toText? [] = some [] := toText_ofText []
  rw [isBlank, empty]
  rfl

theorem frames_nil : frames [] = [] := by
  rw [frames_of_unbroken List.not_mem_nil, isBlank_nil, if_pos rfl]

/-- The first line is cut off at the first line feed, if there is one. -/
theorem splitLine_cases (bs : Bytes) :
    (∃ line rest, bs = line ++ lineFeed :: rest ∧ lineFeed ∉ line ∧
      splitLine bs = (line ++ [lineFeed], rest)) ∨
    (lineFeed ∉ bs ∧ splitLine bs = (bs, [])) := by
  induction bs with
  | nil => exact .inr ⟨List.not_mem_nil, rfl⟩
  | cons b bs ih =>
    by_cases feed : b = lineFeed
    · subst b
      exact .inl ⟨[], bs, rfl, List.not_mem_nil, rfl⟩
    · rcases ih with ⟨line, rest, rfl, unbroken, split⟩ | ⟨unbroken, split⟩
      · refine .inl ⟨b :: line, rest, rfl, ?_, ?_⟩
        · simp [Ne.symm feed, unbroken]
        · rw [splitLine, if_neg feed, split]
          rfl
      · refine .inr ⟨?_, ?_⟩
        · simp [Ne.symm feed, unbroken]
        · rw [splitLine, if_neg feed, split]

/-! ## One frame -/

/-- What reading one frame comes to: the first line that is not blank is taken off. -/
inductive Reads (bs : Bytes) : Next α × Bytes → Prop
  | finished (nothing : frames bs = []) : Reads bs (.finished, [])
  | line {line rest : Bytes} {others : List Bytes} (first : frames bs = line :: others)
      (behind : frames rest = others) (shorter : rest.length < bs.length) :
      Reads bs (.ofResult (decodeLine ofJson? line), rest)

variable {ofJson?}

/-- Blank bytes in front make no difference. -/
theorem Reads.of_blank {bs rest : Bytes} {r : Next α × Bytes} (h : Reads ofJson? rest r)
    (same : frames bs = frames rest) (shorter : rest.length ≤ bs.length) :
    Reads ofJson? bs r := by
  cases h with
  | finished nothing => exact .finished (same.trans nothing)
  | line first behind less => exact .line (same.trans first) behind (by omega)

variable (ofJson?)

/-- A reader with one step for each byte comes to the end of the first frame. -/
theorem reads_nextWithin (n : Nat) (bs : Bytes) (enough : bs.length ≤ n) :
    Reads ofJson? bs (nextWithin ofJson? n bs) := by
  induction n generalizing bs with
  | zero =>
    cases List.length_eq_zero_iff.mp (Nat.le_zero.mp enough)
    exact .finished frames_nil
  | succ n ih =>
    by_cases nonempty : bs = []
    · subst bs
      exact .finished frames_nil
    rcases splitLine_cases bs with ⟨line, rest, rfl, unbroken, split⟩ | ⟨unbroken, split⟩
    · rw [List.length_append, List.length_cons] at enough
      rw [nextWithin_succ ofJson? nonempty split, isBlank_concat, decodeLine_concat]
      have whole := frames_append line rest
      rw [frames_of_unbroken unbroken] at whole
      split
      case isTrue blank =>
        rw [if_pos blank] at whole
        exact (ih rest (by omega)).of_blank whole (by simp; omega)
      case isFalse visible =>
        rw [if_neg visible] at whole
        exact .line whole rfl (by simp; omega)
    · rw [nextWithin_succ ofJson? nonempty split]
      have whole := frames_of_unbroken unbroken
      split
      case isTrue blank =>
        rw [if_pos blank, ← frames_nil] at whole
        exact (ih [] (Nat.zero_le n)).of_blank whole (Nat.zero_le _)
      case isFalse visible =>
        rw [if_neg visible] at whole
        exact .line whole frames_nil (List.length_pos_iff.mpr nonempty)

theorem reads_next (bs : Bytes) : Reads ofJson? bs (next ofJson? bs) :=
  reads_nextWithin ofJson? bs.length bs (Nat.le_refl _)

theorem next_shorter {bs rest : Bytes} {a : α} (h : next ofJson? bs = (.message a, rest)) :
    rest.length < bs.length := by
  have reads := reads_next ofJson? bs
  rw [h] at reads
  generalize r : (Next.message a, rest) = result at reads
  cases reads with
  | finished => cases r
  | line first behind shorter =>
    cases (Prod.mk.inj r).2
    exact shorter

/-! ## All frames -/

/-- Frames are read until one fails or the stream is over. -/
def receiveAll (bs : Bytes) : List α × Option TransportError :=
  match _ : next ofJson? bs with
  | (.message a, rest) =>
    let (as, failure?) := receiveAll rest
    (a :: as, failure?)
  | (.failure e, _) => ([], some e)
  | (.finished, _) => ([], none)
termination_by bs.length
decreasing_by exact next_shorter ofJson? (by assumption)

/-- Lines are taken one by one up to the first that says nothing. -/
def deliver : List Bytes → List α × Option TransportError
  | [] => ([], none)
  | line :: lines =>
    match decodeLine ofJson? line with
    | .ok a =>
      let (as, failure?) := deliver lines
      (a :: as, failure?)
    | .error e => ([], some e)

theorem receiveAll_step (bs : Bytes) :
    receiveAll ofJson? bs =
      match next ofJson? bs with
      | (.message a, rest) => (a :: (receiveAll ofJson? rest).1, (receiveAll ofJson? rest).2)
      | (.failure e, _) => ([], some e)
      | (.finished, _) => ([], none) := by
  rw [receiveAll]
  split
  case h_1 found => rw [found]
  case h_2 found => rw [found]
  case h_3 found => rw [found]

/-- A reader delivers what the lines say. -/
theorem receiveAll_eq (bs : Bytes) : receiveAll ofJson? bs = deliver ofJson? (frames bs) := by
  induction length : bs.length using Nat.strongRecOn generalizing bs with
  | ind n ih =>
    have reads := reads_next ofJson? bs
    generalize found : next ofJson? bs = result at reads
    cases reads with
    | finished nothing =>
      rw [receiveAll_step, found, nothing]
      rfl
    | @line line rest others first behind shorter =>
      have later := ih rest.length (by omega) rest rfl
      rw [receiveAll_step, found, first, deliver]
      cases decodeLine ofJson? line with
      | ok a =>
        simp only [Next.ofResult]
        rw [later, behind]
      | error e => rfl

theorem splitLine_unbroken {line : Bytes} (unbroken : lineFeed ∉ line) (rest : Bytes) :
    splitLine (line ++ lineFeed :: rest) = (line ++ [lineFeed], rest) := by
  induction line with
  | nil => rfl
  | cons b line ih =>
    simp only [List.mem_cons, not_or] at unbroken
    rw [List.cons_append, splitLine, if_neg (Ne.symm unbroken.1), ih unbroken.2]
    rfl

/-- What a reader delivers of some lines: one message for each in their order, until it
is done or fails at a line that is none. -/
structure Delivered (lines : List Bytes) (messages : List α) (failure? : Option TransportError) :
    Prop where
  decoded : (lines.take messages.length).map (decodeLine ofJson?) = messages.map .ok
  complete : failure? = none → messages.length = lines.length
  failed : ∀ e, failure? = some e →
    ∃ line, lines[messages.length]? = some line ∧ decodeLine ofJson? line = .error e

theorem delivered_deliver (lines : List Bytes) :
    Delivered ofJson? lines (deliver ofJson? lines).1 (deliver ofJson? lines).2 := by
  induction lines with
  | nil => exact ⟨rfl, fun _ => rfl, fun _ failed => (by cases failed)⟩
  | cons line lines ih =>
    rw [deliver]
    cases said : decodeLine ofJson? line with
    | ok a =>
      refine ⟨?_, ?_, ?_⟩
      · simp only [List.length_cons, List.take_succ_cons, List.map_cons, said, ih.decoded]
      · intro complete
        simp only [List.length_cons, ih.complete complete]
      · intro e failed
        simpa only [List.length_cons, List.getElem?_cons_succ] using ih.failed e failed
    | error e =>
      refine ⟨rfl, fun complete => (by cases complete), ?_⟩
      intro e' failed
      cases failed
      exact ⟨line, rfl, said⟩

theorem deliver_ok {lines : List Bytes} {messages : List α}
    (decoded : lines.map (decodeLine ofJson?) = messages.map .ok) :
    deliver ofJson? lines = (messages, none) := by
  induction lines generalizing messages with
  | nil =>
    cases messages with
    | nil => rfl
    | cons a as => cases decoded
  | cons line lines ih =>
    cases messages with
    | nil => cases decoded
    | cons a as =>
      rw [List.map_cons, List.map_cons] at decoded
      obtain ⟨said, rest⟩ := List.cons.inj decoded
      rw [deliver, said, ih rest]

end Reading

/-! ## Written streams -/

/-- A line of white space. -/
structure BlankLine where
  text : List Char
  blank : Text.allBlank text = true
  unbroken : '\n' ∉ text

/-- The line of a reply without an error. -/
structure Acceptance where
  text : List Char
  unbroken : '\n' ∉ text
  reply : Wire.Reply
  decoded : Wire.decode? Wire.Reply.ofJson? text = some reply
  success : reply.error = none

/-- A text on a line of its own. -/
def writeLine (text : List Char) : Bytes := ofText text ++ [lineFeed]

/-- A line that says something is the next frame. -/
theorem next_writeLine {α : Type} (ofJson? : Json.Value → Option α) {text : List Char}
    (unbroken : '\n' ∉ text) (visible : Text.allBlank text = false) (rest : Bytes) :
    next ofJson? (writeLine text ++ rest) =
      (.ofResult (decodeLine ofJson? (ofText text)), rest) := by
  have one : lineFeed ∉ ofText text := fun feed => unbroken (lineFeed_mem_ofText feed)
  have whole : writeLine text ++ rest = ofText text ++ lineFeed :: rest := by
    rw [writeLine, List.append_assoc, List.singleton_append]
  have blank : isBlank (ofText text) = false := by
    rw [isBlank, toText_ofText, Option.any_some, visible]
  rw [next, whole, List.length_append, List.length_cons, ← Nat.add_assoc,
    nextWithin_succ ofJson? (by simp) (splitLine_unbroken one rest), isBlank_concat, blank,
    decodeLine_concat]
  rfl

def gap (lines : List BlankLine) : Bytes := lines.flatMap fun line => writeLine line.text

/-- What a coordinator writes on a stream that it accepts: its reply and then messages,
with lines of white space anywhere between them. -/
structure Transcript where
  before : List BlankLine
  acceptance : Acceptance
  messages : List (List BlankLine × Wire.StreamResponse)
  behind : List BlankLine

def Transcript.all (t : Transcript) : Bytes :=
  gap t.before ++ (writeLine t.acceptance.text ++
    ((t.messages.flatMap fun m => gap m.1 ++ encode m.2.toJson) ++ gap t.behind))

/-- The bytes of a transcript; the last line feed may be missing. -/
def Transcript.bytes (t : Transcript) (ended : Bool) : Bytes :=
  if ended then t.all else t.all.dropLast

/-- Bytes that end with their last line and hold these frames, whatever follows. -/
structure Whole (bs : Bytes) (lines : List Bytes) : Prop where
  frames : ∀ cs, frames (bs ++ cs) = lines ++ frames cs
  closed : ∀ b, bs.getLast? = some b → b = lineFeed

theorem Whole.nil : Whole [] [] := ⟨fun _ => rfl, fun _ h => by cases h⟩

theorem Whole.append {bs cs : Bytes} {lines more : List Bytes} (h : Whole bs lines)
    (h' : Whole cs more) : Whole (bs ++ cs) (lines ++ more) := by
  refine ⟨?_, ?_⟩
  · intro ds
    rw [List.append_assoc, h.frames, h'.frames, List.append_assoc]
  · intro b last
    rw [List.getLast?_append] at last
    cases last' : cs.getLast? with
    | none =>
      rw [last'] at last
      exact h.closed b last
    | some c =>
      rw [last'] at last
      cases last
      exact h'.closed b last'

theorem Whole.flatMap {β : Type} {xs : List β} {bytes : β → Bytes} {lines : β → List Bytes}
    (h : ∀ x ∈ xs, Whole (bytes x) (lines x)) : Whole (xs.flatMap bytes) (xs.flatMap lines) := by
  induction xs with
  | nil => exact .nil
  | cons x xs ih =>
    rw [List.flatMap_cons, List.flatMap_cons]
    exact (h x (by simp)).append (ih fun y hy => h y (by simp [hy]))

theorem whole_writeLine {text : List Char} (unbroken : '\n' ∉ text) :
    Whole (writeLine text) (if Text.allBlank text then [] else [ofText text]) := by
  have one : lineFeed ∉ ofText text := fun feed => unbroken (lineFeed_mem_ofText feed)
  refine ⟨?_, ?_⟩
  · intro cs
    rw [writeLine, List.append_assoc, List.singleton_append, frames_append,
      frames_of_unbroken one, isBlank, toText_ofText, Option.any_some]
  · intro b last
    rw [writeLine, List.getLast?_concat] at last
    exact (Option.some.inj last).symm

theorem whole_gap (lines : List BlankLine) : Whole (gap lines) [] := by
  have nothing : lines.flatMap (fun _ => ([] : List Bytes)) = [] := by simp
  rw [← nothing]
  apply Whole.flatMap
  intro line _
  have whole := whole_writeLine line.unbroken
  rwa [if_pos line.blank] at whole

theorem whole_acceptance (line : Acceptance) : Whole (writeLine line.text) [ofText line.text] := by
  have whole := whole_writeLine line.unbroken
  rwa [visible_of_decode _ line.decoded] at whole

theorem whole_encode (m : Wire.StreamResponse) :
    Whole (encode m.toJson) [ofText m.toJson.render] := by
  have visible := visible_of_decode _ (Wire.decode_encode m.legible m.ofJson_toJson)
  have whole := whole_writeLine (Json.Value.newline_not_mem_render m.legible)
  rw [Wire.encode] at visible
  rwa [visible] at whole

/-- The lines that say something in a transcript. -/
def Transcript.lines (t : Transcript) : List Bytes :=
  ofText t.acceptance.text :: t.messages.map fun m => ofText m.2.toJson.render

theorem Transcript.whole (t : Transcript) : Whole t.all t.lines := by
  have messages : Whole (t.messages.flatMap fun m => gap m.1 ++ encode m.2.toJson)
      (t.messages.map fun m => ofText m.2.toJson.render) := by
    rw [List.map_eq_flatMap]
    apply Whole.flatMap
    intro m _
    exact (whole_gap m.1).append (whole_encode m.2)
  have rest := messages.append (whole_gap t.behind)
  rw [List.append_nil] at rest
  exact (whole_gap t.before).append ((whole_acceptance t.acceptance).append rest)

/-- A missing line feed at the end changes no line. -/
theorem Whole.frames_dropLast {bs : Bytes} {lines : List Bytes} (h : Whole bs lines)
    (nonempty : bs ≠ []) : Frame.frames bs.dropLast = lines := by
  have feed := h.closed _ (List.getLast?_eq_some_getLast nonempty)
  have whole := h.frames []
  rw [List.append_nil, frames_nil, List.append_nil, ← List.dropLast_concat_getLast nonempty, feed,
    frames_append, frames_nil, List.append_nil] at whole
  exact whole

theorem Transcript.frames_bytes (t : Transcript) (ended : Bool) :
    frames (t.bytes ended) = t.lines := by
  have whole := t.whole
  cases ended with
  | true =>
    have all := whole.frames []
    rwa [List.append_nil, frames_nil, List.append_nil] at all
  | false =>
    apply whole.frames_dropLast
    simp [Transcript.all, writeLine]

theorem decodeLine_of_text {α : Type} {ofJson? : Json.Value → Option α} {text : List Char} {a : α}
    (decoded : Wire.decode? ofJson? text = some a) :
    decodeLine ofJson? (ofText text) = .ok a := by
  rw [decodeLine, toText_ofText]
  simp only [decoded]

/-- The reply of a transcript is read first, and its messages are all that is behind it. -/
theorem Transcript.read (t : Transcript) (ended : Bool) :
    ∃ rest, next Wire.Reply.ofJson? (t.bytes ended) = (.message t.acceptance.reply, rest) ∧
      receiveAll Wire.StreamResponse.ofJson? rest = (t.messages.map Prod.snd, none) := by
  have lines := t.frames_bytes ended
  have reads := reads_next Wire.Reply.ofJson? (t.bytes ended)
  generalize found : next Wire.Reply.ofJson? (t.bytes ended) = result at reads
  cases reads with
  | finished nothing =>
    rw [nothing] at lines
    cases lines
  | @line line rest others first behind shorter =>
    rw [first] at lines
    obtain ⟨rfl, rfl⟩ := List.cons.inj lines
    refine ⟨rest, ?_, ?_⟩
    · rw [decodeLine_of_text t.acceptance.decoded]
      rfl
    · rw [receiveAll_eq, behind]
      apply deliver_ok
      rw [List.map_map, List.map_map]
      apply List.map_congr_left
      intro m _
      exact decodeLine_of_text (Wire.decode_encode m.2.legible m.2.ofJson_toJson)

theorem outcome_of_acceptance (line : Acceptance) :
    Channel.outcome (.message line.reply) = .ok line.reply := by
  rw [Channel.outcome]
  simp only [line.success]

/-- Whatever has been written as frames is read back as it was, and any other bytes are
read as their lines say. -/
theorem framing :
    (∀ (t : Transcript) (ended : Bool),
      Channel.outcome (next Wire.Reply.ofJson? (t.bytes ended)).1 = .ok t.acceptance.reply ∧
      receiveAll Wire.StreamResponse.ofJson? (next Wire.Reply.ofJson? (t.bytes ended)).2 =
        (t.messages.map Prod.snd, none)) ∧
    ∀ bs, Delivered Wire.StreamResponse.ofJson? (frames bs)
      (receiveAll Wire.StreamResponse.ofJson? bs).1
      (receiveAll Wire.StreamResponse.ofJson? bs).2 := by
  constructor
  · intro t ended
    obtain ⟨rest, reply, messages⟩ := t.read ended
    rw [reply]
    exact ⟨outcome_of_acceptance t.acceptance, messages⟩
  · intro bs
    rw [receiveAll_eq]
    exact delivered_deliver _ (frames bs)

/-- An empty reply, a line of white space and two messages with line feeds in them. -/
def exampleTranscript : Transcript where
  before := []
  acceptance :=
    { text := ['{', '}'], unbroken := by decide, reply := ⟨none, []⟩, decoded := by decide
      success := rfl }
  messages :=
    [([⟨['\u3000', '\t'], by decide, by decide⟩], .error ⟨"a\n\u2028\x01"⟩),
     ([⟨[], by decide, by decide⟩], .arbitration ⟨some "\n", 18446744073709551615, .primary⟩)]
  behind := []

theorem exampleTranscript_read :
    Channel.outcome (next Wire.Reply.ofJson? (exampleTranscript.bytes false)).1 =
      .ok ⟨none, []⟩ ∧
    receiveAll Wire.StreamResponse.ofJson?
        (next Wire.Reply.ofJson? (exampleTranscript.bytes false)).2 =
      ([.error ⟨"a\n\u2028\x01"⟩,
        .arbitration ⟨some "\n", 18446744073709551615, .primary⟩], none) :=
  framing.1 exampleTranscript false

end PeeringAgent.Frame
