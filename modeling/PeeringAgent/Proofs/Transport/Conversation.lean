import Mathlib.Data.List.TakeWhile
import PeeringAgent.Proofs.Transport.Framing
import PeeringAgent.Transport.Network

/-!
# One request and its reply

What a request writes on a connection, and what it takes for the answer: the first line
that is not blank, or why there is none.
-/

set_option autoImplicit false

namespace PeeringAgent

/-! ## Requests -/

namespace Request

open Wire (word)

def name : Request → String
  | .stream => "stream"
  | .setPortRange _ => "set_port_range"
  | .setPolicies _ => "set_policies"

def content : Request → List (String × Option Json.Value)
  | .stream => []
  | .setPortRange range => [("range", some range.toJson)]
  | .setPolicies records =>
    [("policies", some (.array (records.map Wire.PolicyRecord.toJson)))]

def fields (credentials : Wire.Credentials) (r : Request) : List (String × Option Json.Value) :=
  [("call", some (word r.name)), ("metadata", some credentials.toJson)] ++ r.content

variable (credentials : Wire.Credentials) (r : Request)

theorem toJson_eq : r.toJson credentials = .object (Wire.entries (r.fields credentials)) := by
  cases r <;> rfl

theorem fields_distinct : ((r.fields credentials).map Prod.fst).Nodup := by
  cases r <;> simp [fields, content]

theorem legible_content : ∀ f ∈ r.content, ∀ v, f.2 = some v → v.Legible := by
  intro f hf v present
  cases r with
  | stream => cases hf
  | setPortRange range =>
    cases List.mem_singleton.mp hf
    cases present
    exact range.legible
  | setPolicies records =>
    cases List.mem_singleton.mp hf
    cases present
    apply Json.Value.legible_array
    intro v hv
    obtain ⟨record, -, rfl⟩ := List.mem_map.mp hv
    exact record.legible

theorem legible : (r.toJson credentials).Legible := by
  rw [toJson_eq]
  apply Wire.legible_entries
  intro f hf v present
  rcases List.mem_append.mp hf with frame | content
  · simp only [List.mem_cons, List.not_mem_nil, or_false] at frame
    rcases frame with rfl | rfl
    · cases present
      exact Wire.legible_word r.name
    · cases present
      exact credentials.legible
  · exact r.legible_content f content v present

/-- One line that says what is asked, by whom, and with which content. -/
def Asks (credentials : Wire.Credentials) (r : Request) (frame : Frame.Bytes) : Prop :=
  ∃ text members, frame = Frame.writeLine text ∧ '\n' ∉ text ∧
    Json.Value.parse? text = some (.object members) ∧
    ∀ f ∈ r.fields credentials, Wire.member? f.1 members = some f.2

theorem asks_requestFrame (c : Channel) (r : Request) :
    r.Asks c.credentials (c.requestFrame r) := by
  have legible := r.legible c.credentials
  refine ⟨(r.toJson c.credentials).render, Wire.entries (r.fields c.credentials), rfl,
    Json.Value.newline_not_mem_render legible, ?_, ?_⟩
  · rw [Json.Value.parse_render legible, toJson_eq]
  · intro f hf
    exact Wire.member_arranged (Wire.arranged_entries _) (r.fields_distinct c.credentials) hf

end Request

namespace Network

/-! ## Replies -/

/-- Some bytes are whole lines and what is behind the last line feed. -/
theorem wholeLines_append (bs : Frame.Bytes) :
    (wholeLines bs).1 ++ (wholeLines bs).2 = bs ∧ Frame.lineFeed ∉ (wholeLines bs).2 ∧
      ∀ b, (wholeLines bs).1.getLast? = some b → b = Frame.lineFeed := by
  refine ⟨?_, ?_, ?_⟩
  · rw [wholeLines, ← List.reverse_append, List.takeWhile_append_dropWhile, List.reverse_reverse]
  · intro feed
    have other := List.mem_takeWhile_imp (List.mem_reverse.mp feed)
    simp at other
  · intro b last
    rw [wholeLines, List.getLast?_reverse] at last
    have stops := List.head?_dropWhile_not (· != Frame.lineFeed) bs.reverse
    rw [last] at stops
    simpa using stops

/-- The lines of a coordinator that a reader gets and that are not blank. -/
def Contact.lines (c : Contact) : List Frame.Bytes := Frame.frames (c.readable c.incoming).1

/-- What the first line alone decides. -/
inductive Verdict (c : Contact) : Except Halt Wire.Reply → Prop
  | closed (silent : c.lines = []) (ended : c.cut = none) : Verdict c (.error (.failed .closed))
  | cut {obstacle : Obstacle} (silent : c.lines = []) (cut : c.cut = some obstacle) :
      Verdict c (.error (obstacle.halt .io))
  | notUtf8 {line : Frame.Bytes} {others : List Frame.Bytes} (first : c.lines = line :: others)
      (unreadable : Frame.toText? line = none) : Verdict c (.error (.failed Frame.notUtf8))
  | malformed {line : Frame.Bytes} {others : List Frame.Bytes} {text : List Char}
      (first : c.lines = line :: others) (readable : Frame.toText? line = some text)
      (senseless : Wire.decode? Wire.Reply.ofJson? text = none) :
      Verdict c (.error (.failed Frame.malformed))
  | rejected {line : Frame.Bytes} {others : List Frame.Bytes} {text : List Char} {reason : String}
      {errors : List String} (first : c.lines = line :: others)
      (readable : Frame.toText? line = some text)
      (decoded : Wire.decode? Wire.Reply.ofJson? text = some ⟨some reason, errors⟩) :
      Verdict c (.error (.failed (.rejected reason)))
  | accepted {line : Frame.Bytes} {others : List Frame.Bytes} {text : List Char}
      {errors : List String} (first : c.lines = line :: others)
      (readable : Frame.toText? line = some text)
      (decoded : Wire.decode? Wire.Reply.ofJson? text = some ⟨none, errors⟩) :
      Verdict c (.ok ⟨none, errors⟩)

theorem verdict_line {c : Contact} {line : Frame.Bytes} {others : List Frame.Bytes}
    (first : c.lines = line :: others) :
    Verdict c ((Channel.outcome (.ofResult (Frame.decodeLine Wire.Reply.ofJson? line))).mapError
      .failed) := by
  cases readable : Frame.toText? line with
  | none =>
    have said : Frame.decodeLine Wire.Reply.ofJson? line = .error Frame.notUtf8 := by
      simp only [Frame.decodeLine, readable]
    rw [said]
    exact .notUtf8 first readable
  | some text =>
    cases decoded : Wire.decode? Wire.Reply.ofJson? text with
    | none =>
      have said : Frame.decodeLine Wire.Reply.ofJson? line = .error Frame.malformed := by
        simp only [Frame.decodeLine, readable, decoded]
      rw [said]
      exact .malformed first readable decoded
    | some reply =>
      have said : Frame.decodeLine Wire.Reply.ofJson? line = .ok reply := by
        simp only [Frame.decodeLine, readable, decoded]
      rw [said]
      obtain ⟨error, errors⟩ := reply
      cases error with
      | none => exact .accepted first readable decoded
      | some reason => exact .rejected first readable decoded

/-- A reply is read without anything being written. -/
theorem verdict_reply (c : Contact) (written : Frame.Bytes) :
    ∃ unread result, Socket.reply ⟨c, c.incoming, written⟩ = (⟨c, unread, written⟩, result) ∧
      Verdict c result := by
  have reads := Frame.reads_next Wire.Reply.ofJson? (c.readable c.incoming).1
  generalize found : Frame.next Wire.Reply.ofJson? (c.readable c.incoming).1 = result at reads
  cases reads with
  | finished nothing =>
    cases cut : c.cut with
    | none =>
      refine ⟨[] ++ (c.readable c.incoming).2, .error (.failed .closed), ?_, .closed nothing cut⟩
      simp only [Socket.reply, Socket.read, found, cut]
      rfl
    | some obstacle =>
      refine ⟨[] ++ (c.readable c.incoming).2, .error (obstacle.halt .io), ?_, .cut nothing cut⟩
      simp only [Socket.reply, Socket.read, found, cut]
  | @line line rest others first behind shorter =>
    refine ⟨rest ++ (c.readable c.incoming).2, _, ?_, verdict_line first⟩
    simp only [Socket.reply, Socket.read, found]
    cases Frame.decodeLine Wire.Reply.ofJson? line <;> rfl

/-! ## Connections -/

/-- What a request comes to on a connection of its own. -/
inductive Conversation (c : Contact) (frame : Frame.Bytes) :
    Socket × Except Halt Wire.Reply → Prop
  | unusable {cause : String} (unusable : c.unusable = some cause) :
      Conversation c frame (.new c, .error (.failed (.io cause)))
  | cutOff {limit : Nat} {obstacle : Obstacle} (usable : c.unusable = none)
      (limited : c.limit = some (limit, obstacle)) (short : limit < frame.length) :
      Conversation c frame (⟨c, c.incoming, frame.take limit⟩, .error (obstacle.halt .io))
  | heard {unread : Frame.Bytes} {result : Except Halt Wire.Reply} (usable : c.unusable = none)
      (room : ∀ limit obstacle, c.limit = some (limit, obstacle) → frame.length ≤ limit)
      (verdict : Verdict c result) : Conversation c frame (⟨c, unread, frame⟩, result)

theorem conversation_ask (c : Contact) (frame : Frame.Bytes) :
    Conversation c frame ((Socket.new c).ask frame) := by
  obtain ⟨unread, result, reply, verdict⟩ := verdict_reply c frame
  cases usable : c.unusable with
  | some cause =>
    rw [Socket.ask, show (Socket.new c).contact.unusable = some cause from usable]
    exact .unusable usable
  | none =>
    rw [Socket.ask, show (Socket.new c).contact.unusable = none from usable]
    cases limited : c.limit with
    | none =>
      have written : (Socket.new c).write frame = (⟨c, c.incoming, frame⟩, .ok ()) := by
        rw [Socket.write, show (Socket.new c).contact.limit = none from limited]
        rfl
      rw [written]
      simp only [reply]
      exact .heard usable (by simp [limited]) verdict
    | some bound =>
      obtain ⟨limit, obstacle⟩ := bound
      have written : (Socket.new c).write frame = (⟨c, c.incoming, frame.take limit⟩,
          if frame.length ≤ limit then .ok () else .error (obstacle.halt .io)) := by
        rw [Socket.write, show (Socket.new c).contact.limit = some (limit, obstacle) from limited]
        rfl
      rw [written]
      by_cases room : frame.length ≤ limit
      · rw [if_pos room, List.take_of_length_le room]
        simp only [reply]
        refine .heard usable ?_ verdict
        intro limit' obstacle' same
        rw [limited] at same
        cases same
        exact room
      · rw [if_neg room]
        exact .cutOff usable limited (Nat.lt_of_not_le room)

end Network

end PeeringAgent
