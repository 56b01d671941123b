import Xdpd.Rest.RequestGrammar
import Xdpd.Rest.RestHandler

/-!
# Connections to the REST server

For each connection the coroutine of `server::operator()` is cloned, with the handler.  It reads
into a buffer and parses what it has read, until the parser gives its verdict; then it composes the
reply.  The error of a read ends the connection without a reply.

`serve_flatten`: the reply depends on the characters of the stream alone, not on how the reads cut
it.  `serve_eq_some_iff` says which reply it is.
-/

namespace Xdpd.Rest

open Lib

variable {lexicalCast : List UInt8 → Option UInt64} {handler : Request → Reply}

/-- The parser of a new connection, with whatever is in the new request. -/
def Parsing.Fresh (s : Parsing) : Prop :=
  s.point = .start

/-- `server::operator()` on a connection: `reads` are the characters that each read has put into the
buffer before one fails. -/
def serve (lexicalCast : List UInt8 → Option UInt64) (handler : Request → Reply) (s : Parsing)
    (reads : List (List UInt8)) : Option Reply :=
  match feedAll (consume lexicalCast) s reads with
  | (none, _, _) => none
  | (some true, s', _) => some (handler s'.req)
  | (some false, _, _) => some (stockReply .badRequest)

/-- The reply that a verdict of the parser leads to. -/
def replyOf (handler : Request → Reply) (verdict : Option Bool) (req : Request) : Option Reply :=
  match verdict with
  | none => none
  | some true => some (handler req)
  | some false => some (stockReply .badRequest)

lemma serve_eq_replyOf (s : Parsing) (reads : List (List UInt8)) :
    serve lexicalCast handler s reads =
      replyOf handler (parse lexicalCast s reads.flatten).1
        (parse lexicalCast s reads.flatten).2.1.req := by
  obtain ⟨unread, h⟩ := feedAll_eq (consume lexicalCast) s reads
  rw [parse, h, serve]
  rcases feedAll (consume lexicalCast) s reads with ⟨_ | _ | _, s', rest⟩ <;> rfl

/-- What is in a new request does not matter. -/
lemma parse_fresh {s s' : Parsing} (hs : s.Fresh) (hs' : s'.Fresh) {bs : List UInt8}
    (hbs : bs ≠ []) :
    parse lexicalCast s bs = parse lexicalCast s' bs := by
  cases bs with
  | nil => exact absurd rfl hbs
  | cons c bs =>
      have hstep : consume lexicalCast s c = consume lexicalCast s' c := by
        rw [consume, consume, hs, hs']
      rw [parse, parse, feed_cons, feed_cons, hstep]

/-- **Reads.**  The reply is that for the whole stream in one read: it does not depend on where the
stream is cut, nor on what is in the request before. -/
theorem serve_flatten {s s' : Parsing} (hs : s.Fresh) (hs' : s'.Fresh) (reads : List (List UInt8)) :
    serve lexicalCast handler s reads = serve lexicalCast handler s' [reads.flatten] := by
  rw [serve_eq_replyOf, serve_eq_replyOf, List.flatten_singleton]
  rcases reads.flatten with _ | ⟨c, bs⟩
  · rfl
  · rw [parse_fresh hs hs' (List.cons_ne_nil c bs)]

/-- A stream that starts with the text of a message is handled with the request of the message. -/
lemma serve_of_message {s : Parsing} (hs : s.Fresh) (m : Message lexicalCast)
    {reads : List (List UInt8)} {rest : List UInt8} (hreads : reads.flatten = m.render ++ rest) :
    serve lexicalCast handler s reads = some (handler m.request) := by
  rw [serve_eq_replyOf, (parse_eq_true_iff hs).mpr ⟨m, hreads, rfl⟩]
  rfl

/-- **Replies.**  The handler is asked exactly about streams that start with the text of a message,
with the request of this message, and whatever follows in the stream is dropped.  Otherwise a reply
says that the request is bad, as soon as the parser has rejected it. -/
theorem serve_eq_some_iff {s : Parsing} (hs : s.Fresh) (reads : List (List UInt8)) (rep : Reply) :
    serve lexicalCast handler s reads = some rep ↔
      (∃ (m : Message lexicalCast) (rest : List UInt8), reads.flatten = m.render ++ rest ∧
        rep = handler m.request) ∨
      ((parse lexicalCast s reads.flatten).1 = some false ∧ rep = stockReply .badRequest) := by
  constructor
  · intro h
    rw [serve_eq_replyOf] at h
    rcases hparse : parse lexicalCast s reads.flatten with ⟨_ | _ | _, s', rest⟩
    · rw [hparse] at h
      exact absurd h nofun
    · rw [hparse] at h
      exact .inr ⟨rfl, (Option.some.inj h).symm⟩
    · obtain ⟨m, hreads, rfl⟩ := (parse_eq_true_iff hs).mp hparse
      rw [hparse] at h
      exact .inl ⟨m, rest, hreads, (Option.some.inj h).symm⟩
  · rintro (⟨m, rest, hreads, rfl⟩ | ⟨hparse, rfl⟩)
    · exact serve_of_message hs m hreads
    · rw [serve_eq_replyOf, hparse]
      rfl

/-! ### A request -/

/-- A request for a port, with a header that is continued on a second line, and one octet of
content. -/
def sampleMessage : Message fun _ => some 1 where
  method := bytes "GET"
  uri := bytes "/info/port/eth%30"
  major := bytes "1"
  minor := bytes "1"
  fields := [⟨bytes "content-LENGTH", [], [⟨bytes " \t", bytes "1", by decide +kernel,
    by decide +kernel, by decide +kernel, by decide +kernel⟩], by decide +kernel, by decide +kernel,
    by decide +kernel⟩]
  content := bytes "x"
  contentLength := 1
  method_ne := by decide +kernel
  method_ok := by decide +kernel
  uri_ne := by decide +kernel
  uri_ok := by decide +kernel
  major_ne := by decide +kernel
  major_ok := by decide +kernel
  minor_ne := by decide +kernel
  minor_ok := by decide +kernel
  announces := ⟨[1], by decide +kernel, rfl⟩
  content_length := by decide +kernel

/-- A new parser with anything in the request. -/
def freshParsing : Parsing :=
  ⟨.start, 7, ⟨bytes "x", bytes "y", 5, -5, [], bytes "z"⟩⟩

lemma fresh_freshParsing : freshParsing.Fresh :=
  rfl

theorem serve_eq_some_iff_sample :
    serve (fun _ => some 1)
      (fun req => stockReply (if req.content = bytes "x" then .ok else .created))
      freshParsing [sampleMessage.render.take 3, sampleMessage.render.drop 3 ++ bytes "GET"] =
        some (stockReply .ok) :=
  (serve_eq_some_iff fresh_freshParsing _ _).mpr
    (.inl ⟨sampleMessage, bytes "GET", by decide +kernel, by decide⟩)

end Xdpd.Rest
