import Mathlib.Data.List.TakeWhile
import Xdpd.Lib.Transition
import Xdpd.Xmp.Wire

/-!
# Reading XMP messages from sockets

`xmp::handle_read` is called when a connection has something to read.  It receives no more than one
message, first its header and then the rest, and keeps what it has of an incomplete one in
`fragment` and `msg_bytes_read`.  Both are members of the plugin, which has any number of
connections.

The messages handed on for a connection are those of its own stream, framed by the length field,
in every run where `handle_read` never finds a part of another connection's message:
`framed_of_undisturbed`.
-/

namespace Xdpd.Xmp

open Xdpd.Lib

/-- `XMPT_REQUEST`. -/
def xmptRequest : Byte := 1

/-- `rofl::cmemory`, as far as `handle_read` uses it. -/
structure Cmemory where
  /-- the constructor, which clears what it allocates -/
  alloc : ℕ → List Byte
  alloc_eq : ∀ n, alloc n = List.replicate n 0
  /-- `resize`, which keeps what the memory holds -/
  resize : List Byte → ℕ → List Byte
  length_resize : ∀ mem n, (resize mem n).length = n
  take_resize : ∀ mem n, mem.length ≤ n → (resize mem n).take mem.length = mem

/-- What a call of `recv` gives: at least one byte, or an exception. -/
inductive Recv where
  | data (first : Byte) (others : List Byte)
  | eSocketRxAgain
  | eSysCall
  | roflException
  deriving DecidableEq

/-- What a call of `handle_read` leaves: the members, whether the socket is closed, and the messages
it has handed on. -/
structure Outcome where
  fragment : Option (List Byte)
  msgBytesRead : ℕ
  closed : Bool
  dispatched : List (List Byte)
  deriving DecidableEq

/-- The end of a call: `recv` is not called again. -/
def Outcome.after (o : Outcome) (results : List Recv) : Option Outcome :=
  if results = [] then some o else none

/-- The bytes of a message are accepted by the constructor of `cxmpmsg`. -/
def accepted (bytes : List Byte) : Bool :=
  match Cxmpmsg.unpack bytes with
  | .error _ => false
  | .ok _ => true

/-- A message was received completely.  `returns` tells whether `handle_request` returns or
throws. -/
def complete (bytes : List Byte) (returns : Bool) : Outcome :=
  match Cxmpmsg.unpack bytes with
  | .error _ => ⟨none, 0, true, []⟩
  | .ok msg => ⟨none, 0, msg.getType == xmptRequest && !returns, [bytes]⟩

/-- How many bytes there are to read in all. -/
def messageLength (mem : List Byte) (n : ℕ) : ℕ :=
  if n < xmpHeaderSize then xmpHeaderSize else be16 (mem.drop 2)

/-- The loop of `handle_read`, with the results of its calls of `recv`.  `n` is `msg_bytes_read`. -/
def readLoop (M : Cmemory) (returns : Bool) (mem : List Byte) (n : ℕ) :
    List Recv → Option Outcome
  | [] => if messageLength mem n < xmpHeaderSize then some ⟨some mem, n, true, []⟩ else none
  | result :: results =>
      let msgLen := messageLength mem n
      if msgLen < xmpHeaderSize then none
      else
        let mem := if mem.length < msgLen then M.resize mem msgLen else mem
        match result with
        | .data first others =>
            let bytes := first :: others
            if msgLen - n < bytes.length then none
            else
              let mem := mem.take n ++ (bytes ++ mem.drop (n + bytes.length))
              let n := n + bytes.length
              if xmpHeaderSize ≤ mem.length ∧ be16 (mem.drop 2) = n then
                (complete (mem.take n) returns).after results
              else readLoop M returns mem n results
        | .eSocketRxAgain => Outcome.after ⟨some mem, n, false, []⟩ results
        | .eSysCall => Outcome.after ⟨none, n, true, []⟩ results
        | .roflException => Outcome.after ⟨none, n, true, []⟩ results

/-! ## The plugin and its connections -/

variable {κ : Type} [DecidableEq κ]

/-- The plugin and the connections that are open. -/
structure State (κ : Type) where
  fragment : Option (List Byte)
  msgBytesRead : ℕ
  isOpen : κ → Bool

/-- What happens to the plugin. -/
inductive Event (κ : Type) where
  | accepted (c : κ)
  | readable (c : κ) (results : List Recv) (returns : Bool)
  | closed (c : κ)

/-- `handle_read`. -/
def handleRead (M : Cmemory) (s : State κ) (results : List Recv) (returns : Bool) :
    Option Outcome :=
  match s.fragment with
  | none => readLoop M returns (M.alloc xmpHeaderSize) 0 results
  | some mem => readLoop M returns mem s.msgBytesRead results

/-- The plugin before any connection. -/
def State.init : State κ := ⟨none, 0, fun _ => false⟩

/-- `handle_accepted`, `handle_read` and `handle_closed`. -/
def step (M : Cmemory) (s : State κ) : Event κ → Option (State κ)
  | .accepted c =>
      if s.isOpen c then none else some { s with isOpen := Function.update s.isOpen c true }
  | .readable c results returns =>
      if s.isOpen c then
        (handleRead M s results returns).map fun o =>
          ⟨o.fragment, o.msgBytesRead, Function.update s.isOpen c !o.closed⟩
      else none
  | .closed c => some { s with isOpen := Function.update s.isOpen c false }

/-! ## History -/

/-- The bytes that some results hold. -/
def bytesOf : List Recv → List Byte
  | [] => []
  | .data first others :: results => first :: others ++ bytesOf results
  | _ :: results => bytesOf results

/-- What each connection has sent since it was accepted, and the messages handed on for it. -/
structure History (κ : Type) where
  received : κ → List Byte
  dispatched : κ → List (List Byte)
  /-- the peer has closed the connection, `recv` has failed on it, or a request on it has thrown;
  or it was never accepted -/
  gone : κ → Bool
  /-- the connection that the members of the plugin belong to: the last one read, while open -/
  owner : Option κ

/-- Nothing has happened. -/
def History.init : History κ := ⟨fun _ => [], fun _ => [], fun _ => true, none⟩

/-- A result of `recv` that ends the connection. -/
def Recv.isFailure : Recv → Bool
  | .eSysCall => true
  | .roflException => true
  | _ => false

/-- What a step adds to the history. -/
def record (M : Cmemory) (s : State κ) : Event κ → History κ → History κ
  | .accepted c, h => { h with
      received := Function.update h.received c []
      dispatched := Function.update h.dispatched c []
      gone := Function.update h.gone c false }
  | .readable c results returns, h =>
      match handleRead M s results returns with
      | none => h
      | some o =>
          ⟨Function.update h.received c (h.received c ++ bytesOf results),
            Function.update h.dispatched c (h.dispatched c ++ o.dispatched),
            Function.update h.gone c
              (h.gone c || results.any Recv.isFailure || o.closed && o.dispatched ≠ []),
            if o.closed then none else some c⟩
  | .closed c, h => { h with
      gone := Function.update h.gone c true
      owner := if h.owner = some c then none else h.owner }

/-- The plugin with its history. -/
abbrev observed (M : Cmemory) :
    State κ × History κ → Event κ → Option (State κ × History κ) :=
  observe (step M) (record M)

/-- `handle_read` is called when there is no part of a message, or one of the same connection. -/
def Undisturbed (p : State κ × History κ) : Event κ → Prop
  | .readable c _ _ => p.1.fragment = none ∨ p.1.msgBytesRead = 0 ∨ p.2.owner = some c
  | _ => True

instance (p : State κ × History κ) (a : Event κ) : Decidable (Undisturbed p a) := by
  cases a <;> unfold Undisturbed <;> infer_instance

/-! ## Streams -/

/-- How a stream of messages is taken apart: a header of eight bytes, the length at its third. -/
def xmpFraming : Framing Byte where
  header := xmpHeaderSize
  header_pos := by decide
  least := xmpHeaderSize
  header_le_least := le_rfl
  lenOf s := be16 (s.drop 2)
  lenOf_append s t h := by
    have height : xmpHeaderSize = 8 := rfl
    have hdrop : 2 ≤ (s.drop 2).length := by
      rw [List.length_drop]
      omega
    rw [List.drop_append_of_le_length (by omega), be16_append hdrop]

/-- The messages of a stream, up to the first that is not accepted. -/
def framed (stream : List Byte) : List (List Byte) := (xmpFraming.records stream).takeWhile accepted

/-- A message of the stream is not accepted, or the next length field is invalid. -/
def Malformed (stream : List Byte) : Prop :=
  (∃ bytes ∈ xmpFraming.records stream, accepted bytes = false) ∨
    (4 ≤ (xmpFraming.rest stream).length ∧
      xmpFraming.lenOf (xmpFraming.rest stream) < xmpHeaderSize)

/-- **Framing.**  The messages handed on for each connection are those of its own stream, and the
connection ends for reasons of its own. -/
structure Framed (p : State κ × History κ) : Prop where
  dispatched : ∀ c, p.2.dispatched c = framed (p.2.received c)
  ends : ∀ c, p.1.isOpen c = true ∨ p.2.gone c = true ∨ Malformed (p.2.received c)

/-! ## One call -/

/-- The memory holds the first bytes `p` of a message and, as long as the header is not complete,
nothing else. -/
structure Holds (mem p : List Byte) : Prop where
  bytes : mem.take p.length = p
  header : xmpHeaderSize ≤ mem.length
  fits : p.length ≤ mem.length
  clear : p.length < xmpHeaderSize → mem.drop p.length = List.replicate (xmpHeaderSize - p.length) 0
  incomplete : p.length < xmpHeaderSize ∨
    (p.length = xmpHeaderSize ∧ xmpFraming.lenOf p < xmpHeaderSize) ∨
      p.length < xmpFraming.lenOf p

/-- How a call may end after the bytes `q` of one message. -/
inductive Ends (q : List Byte) (failed : Bool) : Outcome → Prop
  | waiting {mem : List Byte} (h : Holds mem q) : Ends q failed ⟨some mem, q.length, false, []⟩
  | message {closed : Bool} (hrecord : xmpFraming.IsRecord q) (haccepted : accepted q = true) :
      Ends q failed ⟨none, 0, closed, [q]⟩
  | refused (hrecord : xmpFraming.IsRecord q) (haccepted : accepted q = false) :
      Ends q failed ⟨none, 0, true, []⟩
  | invalid {fragment : Option (List Byte)} {n : ℕ} (hcuts : ¬ xmpFraming.Cuts q)
      (hfour : 4 ≤ q.length) (hlen : xmpFraming.lenOf q < xmpHeaderSize)
      (hleft : fragment = none ∨ n ≠ 0) : Ends q failed ⟨fragment, n, true, []⟩
  | failure {n : ℕ} (hcuts : ¬ xmpFraming.Cuts q) (hfailed : failed = true) :
      Ends q failed ⟨none, n, true, []⟩

lemma Holds.not_cuts {mem p : List Byte} (h : Holds mem p) : ¬ xmpFraming.Cuts p := by
  rintro ⟨hleast, hhead, hlen⟩
  have hleast' : xmpHeaderSize ≤ p.length := hleast
  have hhead' : xmpHeaderSize ≤ xmpFraming.lenOf p := hhead
  rcases h.incomplete with h | ⟨-, h⟩ | h <;> omega

lemma records_of_isRecord {q : List Byte} (h : xmpFraming.IsRecord q) :
    xmpFraming.records q = [q] ∧ xmpFraming.rest q = [] := by
  have hleast : xmpFraming.least ≤ q.length + ([] : List Byte).length := h.1
  have hrecords := h.records_append hleast
  rw [List.append_nil, Framing.records_nil] at hrecords
  have hall := Framing.flatten_records_append_rest (F := xmpFraming) q
  rw [hrecords, List.flatten_singleton] at hall
  exact ⟨hrecords, List.append_right_eq_self.mp hall⟩

/-- The length field is read from the bytes received once these are four. -/
lemma be16_drop_two {mem p : List Byte} (h : mem.take p.length = p) (hfour : 4 ≤ p.length) :
    be16 (mem.drop 2) = xmpFraming.lenOf p := by
  have htwo : 2 ≤ (p.drop 2).length := by
    rw [List.length_drop]
    omega
  have hsplit : mem.drop 2 = p.drop 2 ++ mem.drop p.length := by
    conv_lhs => rw [← List.take_append_drop p.length mem, h]
    exact List.drop_append_of_le_length (by omega)
  rw [hsplit, be16_append htwo]
  rfl

/-- Before that it is not taken for the number of bytes received. -/
lemma be16_ne_of_clear {mem p : List Byte} (h : mem.take p.length = p)
    (hclear : mem.drop p.length = List.replicate (xmpHeaderSize - p.length) 0)
    (hpos : 0 < p.length) (hfour : p.length < 4) : be16 (mem.drop 2) ≠ p.length := by
  have hmem : mem = p ++ List.replicate (8 - p.length) 0 := by
    conv_lhs => rw [← List.take_append_drop p.length mem, h, hclear]
    rfl
  rw [hmem]
  match p, hpos, hfour with
  | [a], _, _ => exact nofun
  | [a, b], _, _ => exact nofun
  | [a, b, c], _, _ =>
      change 256 * c.toNat + 0 ≠ 3
      omega

lemma lenOf_append {p : List Byte} (h : xmpHeaderSize ≤ p.length) (bytes : List Byte) :
    xmpFraming.lenOf (p ++ bytes) = xmpFraming.lenOf p :=
  xmpFraming.lenOf_append p bytes h

/-- What is there to read of a message whose header is complete. -/
lemma messageLength_eq {mem p : List Byte} (h : Holds mem p) (hhead : xmpHeaderSize ≤ p.length) :
    messageLength mem p.length = xmpFraming.lenOf p := by
  rw [messageLength, if_neg (Nat.not_lt.mpr hhead)]
  exact be16_drop_two h.bytes (le_trans (by decide) hhead)

lemma messageLength_of_lt {mem p : List Byte} (h : p.length < xmpHeaderSize) :
    messageLength mem p.length = xmpHeaderSize :=
  if_pos h

/-- Making room for the rest of a message. -/
lemma Holds.grow {mem p : List Byte} (h : Holds mem p) (M : Cmemory) {n : ℕ}
    (hn : n = messageLength mem p.length) :
    Holds (if mem.length < n then M.resize mem n else mem) p ∧
      n ≤ (if mem.length < n then M.resize mem n else mem).length := by
  have hfits := h.fits
  have hheader := h.header
  split
  · next hlt =>
      have hbytes : (M.resize mem n).take p.length = p := by
        have htake := congrArg (List.take p.length) (M.take_resize mem n hlt.le)
        rwa [List.take_take, min_eq_left hfits, h.bytes] at htake
      refine ⟨⟨hbytes, ?_, ?_, ?_, h.incomplete⟩, (M.length_resize mem n).ge⟩
      · rw [M.length_resize]
        omega
      · rw [M.length_resize]
        omega
      · -- the memory has room for a header
        intro hshort
        rw [messageLength_of_lt hshort] at hn
        omega
  · next hge => exact ⟨h, Nat.not_lt.mp hge⟩

/-- Receiving some bytes behind those that are there. -/
lemma Holds.receive {mem p : List Byte} (h : Holds mem p) (bytes : List Byte)
    (hroom : p.length + bytes.length ≤ mem.length) :
    (mem.take p.length ++ (bytes ++ mem.drop (p.length + bytes.length))).length = mem.length ∧
      (mem.take p.length ++ (bytes ++ mem.drop (p.length + bytes.length))).take
        (p ++ bytes).length = p ++ bytes ∧
      ((p ++ bytes).length < xmpHeaderSize →
        (mem.take p.length ++ (bytes ++ mem.drop (p.length + bytes.length))).drop
          (p ++ bytes).length = List.replicate (xmpHeaderSize - (p ++ bytes).length) 0) := by
  rw [h.bytes, ← List.append_assoc]
  refine ⟨?_, List.take_left, ?_⟩
  · rw [List.length_append, List.length_append, List.length_drop]
    omega
  · intro hshort
    rw [List.length_append] at hshort
    rw [List.drop_left, ← List.drop_drop, h.clear (by omega), List.drop_replicate,
      List.length_append, Nat.sub_sub]

/-- What a message that seems complete leads to. -/
lemma ends_complete {mem q : List Byte} (hbytes : mem.take q.length = q)
    (hclear : q.length < xmpHeaderSize →
      mem.drop q.length = List.replicate (xmpHeaderSize - q.length) 0)
    (hpos : 0 < q.length) (hlen : be16 (mem.drop 2) = q.length) (returns failed : Bool) :
    Ends q failed (complete q returns) := by
  have height : xmpHeaderSize = 8 := rfl
  have hfour : 4 ≤ q.length := by
    by_contra hlt
    exact be16_ne_of_clear hbytes (hclear (by omega)) hpos (by omega) hlen
  rw [be16_drop_two hbytes hfour] at hlen
  by_cases hshort : q.length < xmpHeaderSize
  · -- the length field is less than the size of the header
    rw [complete, show Cxmpmsg.unpack q = .error .eXmpInval from if_pos hshort]
    exact .invalid (fun hcuts => absurd hcuts.1 (Nat.not_le.mpr hshort)) hfour (by omega) (.inl rfl)
  · have hrecord : xmpFraming.IsRecord q := ⟨Nat.not_lt.mp hshort, hlen⟩
    rw [complete]
    cases hun : Cxmpmsg.unpack q with
    | error e => exact .refused hrecord (by rw [accepted, hun])
    | ok msg => exact .message hrecord (by rw [accepted, hun])

lemma after_eq_some {o o' : Outcome} {results : List Recv} (h : o.after results = some o') :
    o = o' ∧ results = [] := by
  rw [Outcome.after] at h
  split at h
  · next hnil => exact ⟨Option.some.inj h, hnil⟩
  · exact absurd h nofun

/-- A message that is not complete after some more bytes. -/
lemma incomplete_append {mem p bytes : List Byte} (h : Holds mem p)
    (hroom : p.length + bytes.length ≤ max xmpHeaderSize (messageLength mem p.length))
    (hne : (p ++ bytes).length ≠ xmpFraming.lenOf (p ++ bytes)) :
    (p ++ bytes).length < xmpHeaderSize ∨
      ((p ++ bytes).length = xmpHeaderSize ∧ xmpFraming.lenOf (p ++ bytes) < xmpHeaderSize) ∨
        (p ++ bytes).length < xmpFraming.lenOf (p ++ bytes) := by
  rw [List.length_append] at hne ⊢
  by_cases hhead : p.length < xmpHeaderSize
  · rw [messageLength_of_lt hhead, max_self] at hroom
    omega
  · rw [messageLength_eq h (Nat.not_lt.mp hhead)] at hroom
    rw [lenOf_append (Nat.not_lt.mp hhead)] at hne ⊢
    have hincomplete := h.incomplete
    omega

/-- **One call.**  From the first bytes of a message, a call of `handle_read` goes on to its end, or
to where no more can be read. -/
theorem ends_readLoop (M : Cmemory) {returns : Bool} {results : List Recv} {mem p : List Byte}
    {o : Outcome} (h : Holds mem p) (hrun : readLoop M returns mem p.length results = some o) :
    Ends (p ++ bytesOf results) (results.any Recv.isFailure) o := by
  have height : xmpHeaderSize = 8 := rfl
  induction results generalizing mem p with
  | nil =>
      rw [readLoop] at hrun
      split at hrun
      · next hinvalid =>
          -- the header is complete and its length field is invalid
          obtain rfl := Option.some.inj hrun
          have hhead : xmpHeaderSize ≤ p.length := by
            by_contra hlt
            rw [messageLength_of_lt (Nat.not_le.mp hlt)] at hinvalid
            omega
          rw [messageLength_eq h hhead] at hinvalid
          rw [bytesOf, List.append_nil]
          exact .invalid h.not_cuts (by omega) hinvalid (.inr (by omega))
      · exact absurd hrun nofun
  | cons result results ih =>
      rw [readLoop] at hrun
      change (if messageLength mem p.length < xmpHeaderSize then none else _) = _ at hrun
      split at hrun
      · exact absurd hrun nofun
      next hvalid =>
        obtain ⟨hgrown, hroom⟩ := h.grow M rfl
        have hlen : messageLength (if mem.length < messageLength mem p.length
            then M.resize mem (messageLength mem p.length) else mem) p.length
              = messageLength mem p.length := by
          by_cases hhead : p.length < xmpHeaderSize
          · rw [messageLength_of_lt hhead, messageLength_of_lt hhead]
          · rw [messageLength_eq hgrown (Nat.not_lt.mp hhead),
              messageLength_eq h (Nat.not_lt.mp hhead)]
        generalize (if mem.length < messageLength mem p.length
            then M.resize mem (messageLength mem p.length) else mem) = mem'
          at hgrown hroom hrun hlen
        cases result with
        | data first others =>
            have hcount : (first :: others).length = others.length + 1 := List.length_cons
            change (if messageLength mem p.length - p.length < (first :: others).length then none
              else if xmpHeaderSize ≤ (mem'.take p.length ++ (first :: others
                  ++ mem'.drop (p.length + (first :: others).length))).length ∧ _ then _
                else _) = _ at hrun
            split at hrun
            · exact absurd hrun nofun
            next hasked =>
              obtain ⟨hlength, hbytes, hclear⟩ :=
                hgrown.receive (first :: others) (by omega)
              generalize mem'.take p.length ++ (first :: others
                ++ mem'.drop (p.length + (first :: others).length)) = mem''
                at hrun hlength hbytes hclear
              have hhead := hgrown.header
              have hpos : 0 < (p ++ first :: others).length := by
                rw [List.length_append]
                omega
              have hfits : (p ++ first :: others).length ≤ mem''.length := by
                rw [List.length_append]
                omega
              rw [← List.length_append, hbytes] at hrun
              rw [bytesOf, ← List.append_assoc]
              split at hrun
              · next hcomplete =>
                  obtain ⟨rfl, rfl⟩ := after_eq_some hrun
                  rw [bytesOf, List.append_nil]
                  exact ends_complete hbytes hclear hpos hcomplete.2 returns _
              · next hmore =>
                  refine @ih mem'' _ ⟨hbytes, by omega, hfits, hclear, ?_⟩ hrun
                  by_cases hfour : (p ++ first :: others).length < 4
                  · exact .inl (by omega)
                  · rw [be16_drop_two hbytes (Nat.not_lt.mp hfour)] at hmore
                    refine incomplete_append h ?_ fun heq => hmore ⟨by omega, heq.symm⟩
                    omega
        | eSocketRxAgain =>
            obtain ⟨rfl, rfl⟩ := after_eq_some hrun
            change Ends (p ++ []) _ _
            rw [List.append_nil]
            exact .waiting hgrown
        | eSysCall =>
            obtain ⟨rfl, rfl⟩ := after_eq_some hrun
            change Ends (p ++ []) _ _
            rw [List.append_nil]
            exact .failure h.not_cuts rfl
        | roflException =>
            obtain ⟨rfl, rfl⟩ := after_eq_some hrun
            change Ends (p ++ []) _ _
            rw [List.append_nil]
            exact .failure h.not_cuts rfl

/-! ## Runs -/

/-- The members of the plugin hold the bytes `q` of a message that is not complete. -/
def Belongs (q : List Byte) (n : ℕ) : Option (List Byte) → Prop
  | none => q = []
  | some mem => n = q.length ∧ Holds mem q

/-- The invariant: what is left of a stream is kept for the owner only. -/
structure Inv (p : State κ × History κ) : Prop where
  framed : Framed p
  accepted : ∀ c, p.1.isOpen c = true → ∀ bytes ∈ xmpFraming.records (p.2.received c),
    accepted bytes = true
  idle : ∀ c, p.1.isOpen c = true → p.2.owner ≠ some c → xmpFraming.rest (p.2.received c) = []
  owner : ∀ c, p.2.owner = some c →
    p.1.isOpen c = true ∧
      Belongs (xmpFraming.rest (p.2.received c)) p.1.msgBytesRead p.1.fragment
  clear : ∀ mem, p.1.fragment = some mem → p.1.msgBytesRead = 0 → Holds mem []

lemma holds_alloc (M : Cmemory) : Holds (M.alloc xmpHeaderSize) [] := by
  rw [M.alloc_eq]
  exact ⟨rfl, le_rfl, Nat.zero_le _, fun _ => rfl, .inl (by decide)⟩

/-- Undisturbed, a call goes on with what is left of the connection's stream. -/
lemma Inv.handleRead_eq {p : State κ × History κ} (h : Inv p) (M : Cmemory) {c : κ}
    {results : List Recv} {returns : Bool} (hopen : p.1.isOpen c = true)
    (hok : Undisturbed p (.readable c results returns)) :
    ∃ mem, Holds mem (xmpFraming.rest (p.2.received c)) ∧ handleRead M p.1 results returns
      = readLoop M returns mem (xmpFraming.rest (p.2.received c)).length results := by
  by_cases howner : p.2.owner = some c
  · obtain ⟨-, hbelongs⟩ := h.owner c howner
    rw [handleRead]
    cases hfragment : p.1.fragment with
    | none =>
        rw [hfragment] at hbelongs
        rw [show xmpFraming.rest (p.2.received c) = [] from hbelongs]
        exact ⟨_, holds_alloc M, rfl⟩
    | some mem =>
        rw [hfragment] at hbelongs
        exact ⟨mem, hbelongs.2, by rw [← hbelongs.1]⟩
  · rw [h.idle c hopen howner, handleRead]
    cases hfragment : p.1.fragment with
    | none => exact ⟨_, holds_alloc M, rfl⟩
    | some mem =>
        have hzero : p.1.msgBytesRead = 0 := by
          rcases hok with hnone | hzero | hself
          · exact absurd (hnone.symm.trans hfragment) nofun
          · exact hzero
          · exact absurd hself howner
        exact ⟨mem, h.clear mem hfragment hzero, by rw [hzero]; rfl⟩

/-- Undisturbed, nothing is left of the streams of the other connections. -/
lemma Inv.rest_eq_nil {p : State κ × History κ} (h : Inv p) {c c' : κ} {results : List Recv}
    {returns : Bool} (hok : Undisturbed p (.readable c results returns)) (hne : c' ≠ c)
    (hopen : p.1.isOpen c' = true) : xmpFraming.rest (p.2.received c') = [] := by
  by_cases howner : p.2.owner = some c'
  · obtain ⟨-, hbelongs⟩ := h.owner c' howner
    rcases hok with hnone | hzero | hself
    · rwa [hnone] at hbelongs
    · cases hfragment : p.1.fragment with
      | none => rwa [hfragment] at hbelongs
      | some mem =>
          rw [hfragment, hzero] at hbelongs
          exact List.length_eq_zero_iff.mp hbelongs.1.symm
    · exact absurd (Option.some.inj (howner.symm.trans hself)) hne
  · exact h.idle c' hopen howner

/-- What a stream says after some more bytes. -/
lemma framed_append {stream : List Byte} (bytes : List Byte)
    (h : ∀ r ∈ xmpFraming.records stream, accepted r = true) :
    framed (stream ++ bytes) = framed stream ++ framed (xmpFraming.rest stream ++ bytes) := by
  rw [framed, Framing.records_append, List.takeWhile_append_of_pos h, framed,
    List.takeWhile_eq_self_iff.mpr h, framed]

section Ends

variable {q : List Byte} {failed : Bool} {o : Outcome}

/-- The messages handed on by a call are those among the bytes that it had. -/
lemma Ends.dispatched_eq (h : Ends q failed o) : o.dispatched = framed q := by
  have hnone : ¬ xmpFraming.Cuts q → framed q = [] := by
    intro hcuts
    rw [framed, Framing.records_of_not_cuts hcuts]
    rfl
  cases h with
  | waiting h => exact (hnone h.not_cuts).symm
  | message hrecord haccepted =>
      rw [framed, (records_of_isRecord hrecord).1, List.takeWhile_cons_of_pos haccepted,
        List.takeWhile_nil]
  | refused hrecord haccepted =>
      rw [framed, (records_of_isRecord hrecord).1,
        List.takeWhile_cons_of_neg (by rw [haccepted]; exact Bool.false_ne_true)]
  | invalid hcuts => exact (hnone hcuts).symm
  | failure hcuts => exact (hnone hcuts).symm

/-- If the connection stays open, the members hold what is left of the stream. -/
lemma Ends.belongs (h : Ends q failed o) (hopen : o.closed = false) :
    (∀ r ∈ xmpFraming.records q, accepted r = true) ∧
      Belongs (xmpFraming.rest q) o.msgBytesRead o.fragment := by
  cases h with
  | waiting h =>
      rw [Framing.records_of_not_cuts h.not_cuts, Framing.rest_of_not_cuts h.not_cuts]
      exact ⟨nofun, rfl, h⟩
  | message hrecord haccepted =>
      rw [(records_of_isRecord hrecord).1, (records_of_isRecord hrecord).2]
      exact ⟨List.forall_mem_singleton.mpr haccepted, rfl⟩
  | refused => exact absurd hopen nofun
  | invalid => exact absurd hopen nofun
  | failure => exact absurd hopen nofun

/-- A call closes the connection because of its stream, of a failure, or of a request. -/
lemma Ends.malformed (h : Ends q failed o) (hclosed : o.closed = true) :
    failed = true ∨ o.dispatched ≠ [] ∨ Malformed q := by
  cases h with
  | waiting => exact absurd hclosed nofun
  | message => exact .inr (.inl nofun)
  | refused hrecord haccepted =>
      refine .inr (.inr (.inl ⟨q, ?_, haccepted⟩))
      rw [(records_of_isRecord hrecord).1]
      exact List.mem_singleton_self q
  | invalid hcuts hfour hlen =>
      refine .inr (.inr (.inr ?_))
      rw [Framing.rest_of_not_cuts hcuts]
      exact ⟨hfour, hlen⟩
  | failure _ hfailed => exact .inl hfailed

lemma Ends.clear (h : Ends q failed o) {mem : List Byte} (hmem : o.fragment = some mem)
    (hzero : o.msgBytesRead = 0) : Holds mem [] := by
  cases h with
  | waiting h =>
      obtain rfl := Option.some.inj hmem
      rwa [List.length_eq_zero_iff.mp hzero] at h
  | message => exact absurd hmem nofun
  | refused => exact absurd hmem nofun
  | invalid _ _ _ hleft =>
      rcases hleft with rfl | hpos
      · exact absurd hmem nofun
      · exact absurd hzero hpos
  | failure => exact absurd hmem nofun

end Ends

lemma malformed_append {stream bytes : List Byte}
    (h : Malformed (xmpFraming.rest stream ++ bytes)) : Malformed (stream ++ bytes) := by
  rcases h with ⟨r, hr, haccepted⟩ | hrest
  · refine .inl ⟨r, ?_, haccepted⟩
    rw [Framing.records_append]
    exact List.mem_append_right _ hr
  · rw [← Framing.rest_append] at hrest
    exact .inr hrest

/-- A call of `handle_read` keeps the invariant. -/
lemma Inv.readable {M : Cmemory} {p : State κ × History κ} (h : Inv p) {c : κ}
    {results : List Recv} {returns : Bool} {s' : State κ}
    (hok : Undisturbed p (.readable c results returns))
    (hstep : step M p.1 (.readable c results returns) = some s') :
    Inv (s', record M p.1 (.readable c results returns) p.2) := by
  rw [step] at hstep
  split at hstep
  · next hopen =>
    obtain ⟨o, ho, rfl⟩ := Option.map_eq_some_iff.mp hstep
    obtain ⟨mem, hmem, hcall⟩ := h.handleRead_eq M hopen hok
    have hends := ends_readLoop M hmem (hcall.symm.trans ho)
    have haccepted := h.accepted c hopen
    have hframed := framed_append (bytesOf results) haccepted
    have hcut := Framing.records_append (F := xmpFraming) (p.2.received c) (bytesOf results)
    have hrest := Framing.rest_append (F := xmpFraming) (p.2.received c) (bytesOf results)
    rw [record, ho]
    refine ⟨⟨?_, ?_⟩, ?_, ?_, ?_, fun mem => hends.clear⟩
    · intro c'
      by_cases hc : c' = c
      · subst hc
        simp only [Function.update_self]
        rw [hframed, hends.dispatched_eq, h.framed.dispatched]
      · simp only [Function.update_of_ne hc]
        exact h.framed.dispatched c'
    · intro c'
      by_cases hc : c' = c
      · subst hc
        simp only [Function.update_self]
        cases hclosed : o.closed with
        | false => exact .inl rfl
        | true =>
            rcases hends.malformed hclosed with hfailed | hdispatched | hmalformed
            · exact .inr (.inl (by rw [hfailed, Bool.or_true, Bool.true_or]))
            · exact .inr (.inl (by rw [decide_eq_true hdispatched, Bool.and_true, Bool.or_true]))
            · exact .inr (.inr (malformed_append hmalformed))
      · simp only [Function.update_of_ne hc]
        exact h.framed.ends c'
    · intro c' hopen'
      by_cases hc : c' = c
      · subst hc
        simp only [Function.update_self, Bool.not_eq_true'] at hopen' ⊢
        rw [hcut, List.forall_mem_append]
        exact ⟨haccepted, (hends.belongs hopen').1⟩
      · simp only [Function.update_of_ne hc] at hopen' ⊢
        exact h.accepted c' hopen'
    · intro c' hopen' howner
      by_cases hc : c' = c
      · subst hc
        simp only [Function.update_self, Bool.not_eq_true'] at hopen'
        simp only [hopen'] at howner
        exact absurd rfl howner
      · simp only [Function.update_of_ne hc] at hopen' ⊢
        exact h.rest_eq_nil hok hc hopen'
    · intro c' howner
      change (if o.closed then none else some c) = some c' at howner
      cases hclosed : o.closed with
      | false =>
          rw [hclosed] at howner
          obtain rfl : c = c' := Option.some.inj howner
          simp only [Function.update_self, hrest]
          exact ⟨rfl, (hends.belongs hclosed).2⟩
      | true =>
          rw [hclosed] at howner
          exact absurd howner nofun
  · exact absurd hstep nofun

/-- A connection that is accepted starts with an empty stream. -/
lemma Inv.accept {M : Cmemory} {p : State κ × History κ} (h : Inv p) {c : κ} {s' : State κ}
    (hstep : step M p.1 (.accepted c) = some s') : Inv (s', record M p.1 (.accepted c) p.2) := by
  rw [step] at hstep
  split at hstep
  · exact absurd hstep nofun
  next hclosed =>
    obtain rfl := Option.some.inj hstep
    have hnil : xmpFraming.records [] = [] ∧ xmpFraming.rest [] = [] :=
      ⟨Framing.records_nil, Framing.rest_of_not_cuts fun h => absurd h.1 (by decide)⟩
    refine ⟨⟨?_, ?_⟩, ?_, ?_, ?_, h.clear⟩
    · intro c'
      by_cases hc : c' = c
      · subst hc
        simp only [record, Function.update_self]
        rw [Xmp.framed, hnil.1]
        rfl
      · simp only [record, Function.update_of_ne hc]
        exact h.framed.dispatched c'
    · intro c'
      by_cases hc : c' = c
      · subst hc
        refine .inl ?_
        simp only [Function.update_self]
      · simp only [record, Function.update_of_ne hc]
        exact h.framed.ends c'
    · intro c' hopen'
      by_cases hc : c' = c
      · subst hc
        simp only [record, Function.update_self]
        rw [hnil.1]
        exact nofun
      · simp only [record, Function.update_of_ne hc] at hopen' ⊢
        exact h.accepted c' hopen'
    · intro c' hopen' howner
      by_cases hc : c' = c
      · subst hc
        simp only [record, Function.update_self]
        exact hnil.2
      · simp only [record, Function.update_of_ne hc] at hopen' ⊢
        exact h.idle c' hopen' howner
    · intro c' howner
      obtain ⟨hopen, hbelongs⟩ := h.owner c' howner
      have hc : c' ≠ c := by
        rintro rfl
        exact hclosed hopen
      simp only [record, Function.update_of_ne hc]
      exact ⟨hopen, hbelongs⟩

/-- A connection that is closed no longer owns what it has left in the members. -/
lemma Inv.close {M : Cmemory} {p : State κ × History κ} (h : Inv p) {c : κ} {s' : State κ}
    (hstep : step M p.1 (.closed c) = some s') : Inv (s', record M p.1 (.closed c) p.2) := by
  obtain rfl := Option.some.inj hstep
  have hopen_of : ∀ c', Function.update p.1.isOpen c false c' = true →
      c' ≠ c ∧ p.1.isOpen c' = true := by
    intro c' hopen'
    by_cases hc : c' = c
    · subst hc
      rw [Function.update_self] at hopen'
      exact absurd hopen' nofun
    · rw [Function.update_of_ne hc] at hopen'
      exact ⟨hc, hopen'⟩
  refine ⟨⟨h.framed.dispatched, ?_⟩, ?_, ?_, ?_, h.clear⟩
  · intro c'
    by_cases hc : c' = c
    · subst hc
      refine .inr (.inl ?_)
      simp only [record, Function.update_self]
    · simp only [record, Function.update_of_ne hc]
      exact h.framed.ends c'
  · intro c' hopen'
    exact h.accepted c' (hopen_of c' hopen').2
  · intro c' hopen' howner
    obtain ⟨hc, hopen⟩ := hopen_of c' hopen'
    refine h.idle c' hopen fun hself => howner ?_
    change (if p.2.owner = some c then none else p.2.owner) = some c'
    rw [hself, if_neg fun heq => hc (Option.some.inj heq)]
  · intro c' howner
    change (if p.2.owner = some c then none else p.2.owner) = some c' at howner
    split at howner
    · exact absurd howner nofun
    next hne =>
      have hc : c' ≠ c := by
        rintro rfl
        exact hne howner
      obtain ⟨hopen, hbelongs⟩ := h.owner c' howner
      refine ⟨?_, hbelongs⟩
      simp only [Function.update_of_ne hc]
      exact hopen

omit [DecidableEq κ] in
lemma inv_init : Inv ((State.init, History.init) : State κ × History κ) := by
  refine ⟨⟨?_, fun _ => .inr (.inl rfl)⟩, nofun, nofun, nofun, nofun⟩
  intro c
  change [] = framed []
  rw [framed, Framing.records_nil]
  rfl

/-- **XMP framing.**  In every run of any number of connections, however their streams are cut and
interleaved, in which `handle_read` is only called when the members hold no part of a message or one
of the same connection, the messages handed on for each connection are those of its stream, and no
connection is closed but for its own stream, a failure of its own or one of its own requests. -/
theorem framed_of_undisturbed (M : Cmemory) {events : List (Event κ)} {p : State κ × History κ}
    (hrun : Run (observed M) Undisturbed (State.init, History.init) events p) : Framed p := by
  suffices hinv : Inv p from hinv.framed
  refine hrun.invariant ?_ inv_init
  intro p a p' hinv hok hstep
  obtain ⟨s', h'⟩ := p'
  obtain ⟨hs', rfl⟩ := observe_eq_some hstep
  cases a with
  | accepted c => exact hinv.accept hs'
  | readable c results returns => exact hinv.readable hok hs'
  | closed c => exact hinv.close hs'

/-- A `cmemory` that clears what it allocates. -/
def clearMemory : Cmemory where
  alloc n := List.replicate n 0
  alloc_eq _ := rfl
  resize mem n := (mem ++ List.replicate (n - mem.length) 0).take n
  length_resize mem n := by
    rw [List.length_take, List.length_append, List.length_replicate]
    omega
  take_resize mem n h := by rw [List.take_take, min_eq_left h, List.take_left]

/-- Two connections, of which the second one is only read when the first has no message pending. -/
def inTurn : List (Event Bool) :=
  [.accepted false, .accepted true,
    .readable false [.data 1 [1, 0, 8], .eSocketRxAgain] true,
    .readable false [.data 0 [0, 0, 7]] true,
    .readable true [.data 1 [1, 0, 8, 0, 0], .data 0 [9]] true]

theorem framed_inTurn : ∃ p ∈ exec (guarded (observed clearMemory) Undisturbed)
      (State.init, History.init) inTurn,
    p.2.dispatched true = [[1, 1, 0, 8, 0, 0, 0, 9]] ∧ Framed p := by
  have hexec : ∃ p ∈ exec (guarded (observed clearMemory) Undisturbed)
      (State.init, History.init) inTurn,
      p.2.dispatched true = [[1, 1, 0, 8, 0, 0, 0, 9]] := by decide
  obtain ⟨p, hp, hdispatched⟩ := hexec
  exact ⟨p, hp, hdispatched, framed_of_undisturbed clearMemory (run_of_exec_guarded hp)⟩

/-- The first connection sends half a header, and the second one a request.  The first half of the
request is put behind that of the other connection, and the plugin takes both for a message. -/
theorem not_framed_of_interleaved : ¬ ∀ (M : Cmemory) (events : List (Event Bool))
    (p : State Bool × History Bool),
    Run (observed M) anyStep (State.init, History.init) events p → Framed p := by
  intro hall
  have hexec : ∃ p ∈ exec (observed clearMemory) (State.init, History.init)
      [.accepted false, .accepted true,
        .readable false [.data 1 [1, 0, 8], .eSocketRxAgain] true,
        .readable true [.data 1 [1, 0, 8]] true],
      p.2.dispatched true = [[1, 1, 0, 8, 1, 1, 0, 8]] ∧ p.2.received true = [1, 1, 0, 8] := by
    decide
  obtain ⟨p, hp, hdispatched, hreceived⟩ := hexec
  have heq := (hall _ _ p (run_of_exec hp)).dispatched true
  have hnone : xmpFraming.records [1, 1, 0, 8] = [] := Framing.records_of_length_lt (by decide)
  rw [hdispatched, hreceived, framed, hnone] at heq
  exact absurd heq nofun

end Xdpd.Xmp
