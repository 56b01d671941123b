import Xdpd.Lib.KeyedFold
import Xdpd.Lib.Loops

/-!
# Statistics of the queues

`handle_queue_stats_request` of the endpoints for OpenFlow 1.0, 1.2 and 1.3.  The three go through
the logical ports of a snapshot with almost the same loop.  They differ in the number for all ports,
and in where they check that there is a port in a slot.

The handler for OpenFlow 1.3 also sets the duration of each entry to 0.
-/

namespace Xdpd.OpenFlow.QueueStats

open Xdpd.Lib

/-! ## The snapshot -/

/-- `port_queue_t`, with the statistics that are read. -/
structure PortQueue where
  set : Bool
  txBytes : BitVec 64
  txPackets : BitVec 64
  overrun : BitVec 64
  deriving DecidableEq, Repr

/-- `switch_port_snapshot_t`; `max_queues` is the length of the list. -/
structure SwitchPort where
  ofPortNum : ℕ
  queues : List PortQueue
  deriving DecidableEq, Repr

/-- `logical_port_state` -/
inductive LogicalPortState
  | detached | attached | detaching
  deriving DecidableEq, Repr

/-- `logical_switch_port_t` -/
structure LogicalPort where
  attachmentState : LogicalPortState
  port : Option SwitchPort
  deriving DecidableEq, Repr

/-- `of1x_switch_snapshot_t`.  A port is attached in the slot of its number, which is not 0;
`max_ports` is the number of slots. -/
structure SwitchSnapshot where
  logicalPorts : List LogicalPort
  numbered : ∀ n l, logicalPorts[n]? = some l → l.attachmentState = .attached → ∀ p ∈ l.port,
    p.ofPortNum = n ∧ n ≠ 0

/-- The slots that the loops go through, from slot 1 on. -/
def SwitchSnapshot.slots (s : SwitchSnapshot) : List LogicalPort := s.logicalPorts.drop 1

/-! ## The reply -/

/-- `cofqueue_stats_reply`, an entry of the reply. -/
structure CofqueueStatsReply where
  portNo : ℕ
  queueId : ℕ
  txBytes : BitVec 64
  txPackets : BitVec 64
  txErrors : BitVec 64
  deriving DecidableEq, Repr

/-- The entry for a queue, with the number of a port. -/
def PortQueue.stats (queue : PortQueue) (portNo queueId : ℕ) : CofqueueStatsReply :=
  ⟨portNo, queueId, queue.txBytes, queue.txPackets, queue.overrun⟩

/-- `cofqueuestatsarray`, a class of the controller library: it is taken as a map that has an entry
under the number of a port and of a queue. -/
abbrev QueueStatsArray := ℕ × ℕ → Option CofqueueStatsReply

/-- `set_queue_stats`, with the setters of the entry: the entry under the two numbers is made if
there is none, and overwritten else. -/
def setQueueStats (array : QueueStatsArray) (portNo queueId : ℕ) (queue : PortQueue) :
    QueueStatsArray :=
  putAt array ((portNo, queueId), queue.stats portNo queueId)

/-- What a handler throws, or a read through an empty slot. -/
inductive Fault
  | emptySlot
  | rofBase
  | badRequestBadPort
  deriving DecidableEq, Repr

/-! ## The handlers -/

/-- `OFPQ_ALL` -/
def OFPQ_ALL : ℕ := 0xffffffff

/-- The part of the loop that the handlers share: the entries for the queues of a port. -/
def addQueueStats (portnum queueId : ℕ) (array : QueueStatsArray) (port : SwitchPort) :
    Except Fault QueueStatsArray :=
  if queueId = OFPQ_ALL then
    .ok (port.queues.zipIdx.foldl (fun array queue =>
      if queue.1.set then setQueueStats array port.ofPortNum queue.2 queue.1 else array) array)
  else
    match port.queues[queueId]? with
    | none => .error .badRequestBadPort
    | some queue => .ok (if queue.set then setQueueStats array portnum queueId queue else array)

/-- One turn of the loop for OpenFlow 1.0. -/
def turn10 (ofppAll portnum queueId : ℕ) (array : QueueStatsArray) (l : LogicalPort) :
    Except Fault QueueStatsArray :=
  match l.port with
  | none => .ok array
  | some port =>
      if ofppAll ≠ portnum ∧ port.ofPortNum ≠ portnum then .ok array
      else if l.attachmentState = .attached then addQueueStats portnum queueId array port
      else .ok array

/-- One turn of the loop for OpenFlow 1.2 and 1.3: the number of the port is read before the slot is
checked. -/
def turn12 (ofppAll portnum queueId : ℕ) (array : QueueStatsArray) (l : LogicalPort) :
    Except Fault QueueStatsArray :=
  match l.port with
  | none => if ofppAll ≠ portnum then .error .emptySlot else .ok array
  | some port =>
      if ofppAll ≠ portnum ∧ port.ofPortNum ≠ portnum then .ok array
      else if l.attachmentState = .attached then addQueueStats portnum queueId array port
      else .ok array

/-- The number is not the one of a slot, and not the one for all ports. -/
def BadPort (ofppAll portnum : ℕ) (s : SwitchSnapshot) : Prop :=
  (s.logicalPorts.length ≤ portnum ∧ portnum ≠ ofppAll) ∨ portnum = 0

instance (ofppAll portnum : ℕ) (s : SwitchSnapshot) : Decidable (BadPort ofppAll portnum s) :=
  inferInstanceAs (Decidable (_ ∨ _))

/-- A handler, for the snapshot of the switch if there is one. -/
def handleQueueStatsRequest (ofppAll : ℕ)
    (turn : ℕ → ℕ → ℕ → QueueStatsArray → LogicalPort → Except Fault QueueStatsArray)
    (snapshot : Option SwitchSnapshot) (portnum queueId : ℕ) : Except Fault QueueStatsArray :=
  match snapshot with
  | none => .error .rofBase
  | some s =>
      if BadPort ofppAll portnum s then .error .badRequestBadPort
      else s.slots.foldlM (turn ofppAll portnum queueId) fun _ => none

/-- The versions. -/
inductive Version
  | of10 | of12 | of13
  deriving DecidableEq, Repr

/-- The number for all ports: `OFPP_ALL`, and `OFPP_ANY` for OpenFlow 1.3. -/
def Version.ofppAll : Version → ℕ
  | of10 => 0xfffc
  | of12 => 0xfffffffc
  | of13 => 0xffffffff

/-- `of10_endpoint::handle_queue_stats_request` -/
def of10HandleQueueStatsRequest :
    Option SwitchSnapshot → ℕ → ℕ → Except Fault QueueStatsArray :=
  handleQueueStatsRequest Version.of10.ofppAll turn10

/-- `of12_endpoint::handle_queue_stats_request` -/
def of12HandleQueueStatsRequest :
    Option SwitchSnapshot → ℕ → ℕ → Except Fault QueueStatsArray :=
  handleQueueStatsRequest Version.of12.ofppAll turn12

/-- `of13_endpoint::handle_queue_stats_request` -/
def of13HandleQueueStatsRequest :
    Option SwitchSnapshot → ℕ → ℕ → Except Fault QueueStatsArray :=
  handleQueueStatsRequest Version.of13.ofppAll turn12

/-- The handler of a version. -/
def Version.handle : Version → Option SwitchSnapshot → ℕ → ℕ → Except Fault QueueStatsArray
  | of10 => of10HandleQueueStatsRequest
  | of12 => of12HandleQueueStatsRequest
  | of13 => of13HandleQueueStatsRequest

/-! ## What the reply should be -/

variable {v v' : Version} {s : SwitchSnapshot} {portNo portNo' queueId : ℕ} {l : LogicalPort}
  {port : SwitchPort} {array array' : QueueStatsArray} {key : ℕ × ℕ} {e : CofqueueStatsReply}

/-- The port is attached in the slot and selected by the request. -/
def Selects (v : Version) (portNo : ℕ) (l : LogicalPort) (port : SwitchPort) : Prop :=
  l.port = some port ∧ l.attachmentState = .attached ∧
    (portNo = v.ofppAll ∨ port.ofPortNum = portNo)

/-- There is to be an entry in the reply. -/
def Wanted (v : Version) (s : SwitchSnapshot) (portNo queueId : ℕ) (e : CofqueueStatsReply) :
    Prop :=
  ∃ l ∈ s.logicalPorts, ∃ port, Selects v portNo l port ∧ ∃ i queue,
    port.queues[i]? = some queue ∧ queue.set = true ∧ (queueId = OFPQ_ALL ∨ i = queueId) ∧
      e = queue.stats port.ofPortNum i

/-- No read goes through an empty slot, and a reply has exactly one entry for each queue that is
asked for, and no others. -/
structure Answers (v : Version) (s : SwitchSnapshot) (portNo queueId : ℕ)
    (result : Except Fault QueueStatsArray) : Prop where
  safe : result ≠ .error .emptySlot
  sound : ∀ array, result = .ok array → ∀ key e, array key = some e → Wanted v s portNo queueId e
  complete : ∀ array, result = .ok array → ∀ e, Wanted v s portNo queueId e →
    ∃! key, array key = some e

/-- The requests of two versions are the same: for all ports, or for a port with the same number. -/
def SameRequest (v v' : Version) (portNo portNo' : ℕ) : Prop :=
  (portNo = v.ofppAll ∧ portNo' = v'.ofppAll) ∨
    (portNo = portNo' ∧ portNo ≠ v.ofppAll ∧ portNo' ≠ v'.ofppAll)

/-- A request is answered as it should be in all versions, and in the same way. -/
def Agrees (v : Version) (s : SwitchSnapshot) (portNo queueId : ℕ) : Prop :=
  ∀ v' portNo', SameRequest v v' portNo portNo' →
    Answers v' s portNo' queueId (v'.handle (some s) portNo' queueId) ∧
      v'.handle (some s) portNo' queueId = v.handle (some s) portNo queueId

/-- The request is for a queue that the port does not have. -/
def Refuses (v : Version) (portNo queueId : ℕ) (l : LogicalPort) : Prop :=
  ∃ port, Selects v portNo l port ∧ queueId ≠ OFPQ_ALL ∧ port.queues.length ≤ queueId

/-- Where a slot is checked too late, the ones that the loop comes to are not empty.  Where one
queue is asked for, a port without it is selected, or no port that has it set but the one with the
number of the request. -/
def Fits (v : Version) (s : SwitchSnapshot) (portNo queueId : ℕ) : Prop :=
  BadPort v.ofppAll portNo s ∨
    (v = .of10 ∨ portNo = v.ofppAll ∨ ∀ before l after, s.slots = before ++ l :: after →
      l.port = none → ∃ r ∈ before, Refuses v portNo queueId r) ∧
    (queueId = OFPQ_ALL ∨ (∃ l ∈ s.slots, Refuses v portNo queueId l) ∨
      ∀ l ∈ s.slots, ∀ port, Selects v portNo l port →
        (∃ queue ∈ port.queues[queueId]?, queue.set = true) → port.ofPortNum = portNo)

/-! ## One turn of a loop -/

/-- What a turn of the loop throws. -/
def Version.fault (v : Version) (portNo queueId : ℕ) (l : LogicalPort) : Option Fault :=
  match l.port with
  | none => if v = .of10 ∨ portNo = v.ofppAll then none else some .emptySlot
  | some port =>
      if (portNo = v.ofppAll ∨ port.ofPortNum = portNo) ∧ l.attachmentState = .attached ∧
          queueId ≠ OFPQ_ALL ∧ port.queues.length ≤ queueId then
        some .badRequestBadPort
      else none

/-- The entries that are written for a port. -/
def SwitchPort.writes (port : SwitchPort) (portNo queueId : ℕ) :
    List ((ℕ × ℕ) × CofqueueStatsReply) :=
  if queueId = OFPQ_ALL then
    (port.queues.zipIdx.filter fun queue => queue.1.set).map fun queue =>
      ((port.ofPortNum, queue.2), queue.1.stats port.ofPortNum queue.2)
  else
    (port.queues[queueId]?.toList.filter PortQueue.set).map fun queue =>
      ((portNo, queueId), queue.stats portNo queueId)

/-- The entries that a turn of the loop writes. -/
def Version.writes (v : Version) (portNo queueId : ℕ) (l : LogicalPort) :
    List ((ℕ × ℕ) × CofqueueStatsReply) :=
  match l.port with
  | none => []
  | some port =>
      if (portNo = v.ofppAll ∨ port.ofPortNum = portNo) ∧ l.attachmentState = .attached then
        port.writes portNo queueId
      else []

/-- The turn of the loop of a version. -/
def Version.turn : Version → ℕ → ℕ → ℕ → QueueStatsArray → LogicalPort →
    Except Fault QueueStatsArray
  | of10 => turn10
  | of12 | of13 => turn12

lemma handle_eq : v.handle = handleQueueStatsRequest v.ofppAll v.turn := by
  cases v <;> rfl

lemma addQueueStats_eq :
    addQueueStats portNo queueId array port =
      if queueId ≠ OFPQ_ALL ∧ port.queues.length ≤ queueId then .error .badRequestBadPort
      else .ok ((port.writes portNo queueId).foldl putAt array) := by
  by_cases hall : queueId = OFPQ_ALL
  · rw [addQueueStats, if_pos hall, if_neg (fun h => h.1 hall), SwitchPort.writes, if_pos hall,
      List.foldl_map, List.foldl_filter]
    rfl
  · rw [addQueueStats, if_neg hall, SwitchPort.writes, if_neg hall]
    by_cases hlen : port.queues.length ≤ queueId
    · rw [List.getElem?_eq_none hlen, if_pos ⟨hall, hlen⟩]
    · obtain ⟨queue, hqueue⟩ : ∃ queue, port.queues[queueId]? = some queue :=
        ⟨_, List.getElem?_eq_getElem (Nat.lt_of_not_le hlen)⟩
      rw [hqueue, if_neg fun h => hlen h.2]
      cases hset : queue.set <;> simp [hset, setQueueStats]

/-- The turn for a slot with a port. -/
lemma elim_fault_eq (hl : l.port = some port) :
    (v.fault portNo queueId l).elim (.ok ((v.writes portNo queueId l).foldl putAt array)) .error =
      if v.ofppAll ≠ portNo ∧ port.ofPortNum ≠ portNo then .ok array
      else if l.attachmentState = .attached then addQueueStats portNo queueId array port
      else .ok array := by
  simp only [Version.fault, Version.writes, hl]
  by_cases hsel : portNo = v.ofppAll ∨ port.ofPortNum = portNo
  · have hskip : ¬(v.ofppAll ≠ portNo ∧ port.ofPortNum ≠ portNo) := by
      rintro ⟨hne, hne'⟩
      exact hsel.elim (fun h => hne h.symm) hne'
    rw [if_neg hskip]
    by_cases hattached : l.attachmentState = .attached
    · rw [if_pos hattached, addQueueStats_eq]
      by_cases hrefused : queueId ≠ OFPQ_ALL ∧ port.queues.length ≤ queueId
      · rw [if_pos hrefused, if_pos ⟨hsel, hattached, hrefused⟩]
        rfl
      · rw [if_neg hrefused, if_neg fun h => hrefused h.2.2, if_pos ⟨hsel, hattached⟩]
        rfl
    · rw [if_neg hattached, if_neg fun h => hattached h.2.1, if_neg fun h => hattached h.2]
      rfl
  · have hskip : v.ofppAll ≠ portNo ∧ port.ofPortNum ≠ portNo :=
      ⟨fun h => hsel (.inl h.symm), fun h => hsel (.inr h)⟩
    rw [if_pos hskip, if_neg fun h => hsel h.1, if_neg fun h => hsel h.1]
    rfl

lemma turn_eq : v.turn v.ofppAll portNo queueId array l =
    (v.fault portNo queueId l).elim (.ok ((v.writes portNo queueId l).foldl putAt array))
      .error := by
  cases hl : l.port with
  | some port =>
      rw [elim_fault_eq hl]
      cases v <;> simp only [Version.turn, turn10, turn12, hl]
  | none =>
      by_cases hall : portNo = v.ofppAll
      · cases v <;> simp [Version.turn, turn10, turn12, Version.fault, Version.writes, hl, hall]
      · have hne := Ne.symm hall
        cases v <;>
          simp [Version.turn, turn10, turn12, Version.fault, Version.writes, hl, hall, hne]

/-- A loop throws what the first turn throws that does; otherwise all entries are written. -/
lemma handle_some (hport : ¬BadPort v.ofppAll portNo s) :
    v.handle (some s) portNo queueId = (s.slots.findSome? (v.fault portNo queueId)).elim
      (.ok ((s.slots.flatMap (v.writes portNo queueId)).foldl putAt fun _ => none)) .error := by
  rw [handle_eq]
  simp only [handleQueueStatsRequest, if_neg hport]
  have hturn : ∀ array l, v.turn v.ofppAll portNo queueId array l =
      (v.fault portNo queueId l).elim (.ok ((v.writes portNo queueId l).foldl putAt array))
        .error := fun _ _ => turn_eq
  rw [foldlM_eq_findSome? hturn, List.foldl_flatMap]

lemma handle_badPort (hport : BadPort v.ofppAll portNo s) :
    v.handle (some s) portNo queueId = .error .badRequestBadPort := by
  rw [handle_eq]
  simp only [handleQueueStatsRequest, if_pos hport]

lemma fault_cases {f : Fault} (h : v.fault portNo queueId l = some f) :
    (f = .emptySlot ∧ l.port = none ∧ v ≠ .of10 ∧ portNo ≠ v.ofppAll) ∨
      (f = .badRequestBadPort ∧ Refuses v portNo queueId l) := by
  rw [Version.fault] at h
  split at h
  next hl =>
    split_ifs at h with hchecked
    obtain ⟨hv, hall⟩ := not_or.mp hchecked
    exact .inl ⟨(Option.some_inj.mp h).symm, hl, hv, hall⟩
  next port hl =>
    split_ifs at h with hrefused
    obtain ⟨hsel, hattached, hqueue, hlen⟩ := hrefused
    exact .inr ⟨(Option.some_inj.mp h).symm, port, ⟨hl, hattached, hsel⟩, hqueue, hlen⟩

lemma fault_of_refuses (h : Refuses v portNo queueId l) :
    v.fault portNo queueId l = some .badRequestBadPort := by
  obtain ⟨port, ⟨hl, hattached, hsel⟩, hqueue, hlen⟩ := h
  simp only [Version.fault, hl]
  exact if_pos ⟨hsel, hattached, hqueue, hlen⟩

lemma fault_of_port_eq_none (hl : l.port = none) (hv : v ≠ .of10) (hall : portNo ≠ v.ofppAll) :
    v.fault portNo queueId l = some .emptySlot := by
  simp only [Version.fault, hl]
  exact if_neg (not_or.mpr ⟨hv, hall⟩)

/-- The number of the port that is written: that of the request when it is for one queue. -/
def SwitchPort.numFor (port : SwitchPort) (portNo queueId : ℕ) : ℕ :=
  if queueId = OFPQ_ALL then port.ofPortNum else portNo

lemma mem_port_writes : (key, e) ∈ port.writes portNo queueId ↔
    ∃ i queue, port.queues[i]? = some queue ∧ queue.set = true ∧
      (queueId = OFPQ_ALL ∨ i = queueId) ∧
      key = (port.numFor portNo queueId, i) ∧ e = queue.stats (port.numFor portNo queueId) i := by
  rw [SwitchPort.writes, SwitchPort.numFor]
  by_cases hqueue : queueId = OFPQ_ALL
  · rw [if_pos hqueue, if_pos hqueue]
    simp only [List.mem_map, List.mem_filter, List.mem_zipIdx_iff_getElem?, Prod.mk.injEq]
    constructor
    · rintro ⟨⟨queue, i⟩, ⟨hi, hset⟩, rfl, rfl⟩
      exact ⟨i, queue, hi, hset, .inl hqueue, rfl, rfl⟩
    · rintro ⟨i, queue, hi, hset, -, rfl, rfl⟩
      exact ⟨(queue, i), ⟨hi, hset⟩, rfl, rfl⟩
  · rw [if_neg hqueue, if_neg hqueue]
    simp only [List.mem_map, List.mem_filter, Option.mem_toList, Prod.mk.injEq]
    constructor
    · rintro ⟨queue, ⟨hi, hset⟩, rfl, rfl⟩
      exact ⟨queueId, queue, hi, hset, .inr rfl, rfl, rfl⟩
    · rintro ⟨i, queue, hi, hset, hall | rfl, rfl, rfl⟩
      · exact absurd hall hqueue
      · exact ⟨queue, ⟨hi, hset⟩, rfl, rfl⟩

lemma mem_writes : (key, e) ∈ v.writes portNo queueId l ↔
    ∃ port, Selects v portNo l port ∧ ∃ i queue, port.queues[i]? = some queue ∧
      queue.set = true ∧ (queueId = OFPQ_ALL ∨ i = queueId) ∧
      key = (port.numFor portNo queueId, i) ∧ e = queue.stats (port.numFor portNo queueId) i := by
  constructor
  · intro h
    rw [Version.writes] at h
    split at h
    next => exact absurd h List.not_mem_nil
    next port hl =>
      split_ifs at h with hsel
      · exact ⟨port, ⟨hl, hsel.2, hsel.1⟩, mem_port_writes.mp h⟩
      · exact absurd h List.not_mem_nil
  · rintro ⟨port, ⟨hl, hattached, hsel⟩, hport⟩
    simp only [Version.writes, hl]
    rw [if_pos ⟨hsel, hattached⟩]
    exact mem_port_writes.mpr hport

/-! ## Slots -/

lemma mem_logicalPorts_of_mem_slots (h : l ∈ s.slots) : l ∈ s.logicalPorts :=
  List.mem_of_mem_drop h

lemma mem_slots_of_attached (hl : l ∈ s.logicalPorts) (hport : Selects v portNo l port) :
    l ∈ s.slots := by
  obtain ⟨n, hn⟩ := List.mem_iff_getElem?.mp hl
  obtain ⟨-, hne⟩ := s.numbered n l hn hport.2.1 port hport.1
  obtain ⟨m, rfl⟩ := Nat.exists_eq_succ_of_ne_zero hne
  refine List.mem_iff_getElem?.mpr ⟨m, ?_⟩
  rw [SwitchSnapshot.slots, List.getElem?_drop, Nat.add_comm]
  exact hn

/-- Two ports that are attached have different numbers. -/
lemma port_eq_of_ofPortNum_eq {l' : LogicalPort} {port' : SwitchPort} (hl : l ∈ s.logicalPorts)
    (hl' : l' ∈ s.logicalPorts) (hport : Selects v portNo l port)
    (hport' : Selects v' portNo' l' port') (h : port.ofPortNum = port'.ofPortNum) :
    port = port' := by
  obtain ⟨n, hn⟩ := List.mem_iff_getElem?.mp hl
  obtain ⟨n', hn'⟩ := List.mem_iff_getElem?.mp hl'
  have hnum := (s.numbered n l hn hport.2.1 port hport.1).1
  have hnum' := (s.numbered n' l' hn' hport'.2.1 port' hport'.1).1
  obtain rfl : n = n' := hnum.symm.trans (h.trans hnum')
  obtain rfl := Option.some_inj.mp (hn.symm.trans hn')
  exact Option.some_inj.mp (hport.1.symm.trans hport'.1)

/-! ## The result -/

/-- The result when the request is for a port or a queue that there is not. -/
def IsRefused (v : Version) (s : SwitchSnapshot) (portNo queueId : ℕ) : Prop :=
  BadPort v.ofppAll portNo s ∨ ∃ l ∈ s.slots, Refuses v portNo queueId l

/-- The request is refused, or the reply has the entries that it is to have. -/
def Correct (v : Version) (s : SwitchSnapshot) (portNo queueId : ℕ)
    (result : Except Fault QueueStatsArray) : Prop :=
  (IsRefused v s portNo queueId ∧ result = .error .badRequestBadPort) ∨
    (¬IsRefused v s portNo queueId ∧ ∃ array, result = .ok array ∧
      ∀ key e, array key = some e ↔ Wanted v s portNo queueId e ∧ key = (e.portNo, e.queueId))

/-- Every entry is written with the number of its own port. -/
lemma numFor_eq (h : queueId = OFPQ_ALL ∨ ∀ l ∈ s.slots, ∀ port, Selects v portNo l port →
      (∃ queue ∈ port.queues[queueId]?, queue.set = true) → port.ofPortNum = portNo)
    (hl : l ∈ s.slots) (hport : Selects v portNo l port) {i : ℕ} {queue : PortQueue}
    (hi : port.queues[i]? = some queue) (hset : queue.set = true)
    (hqueue : queueId = OFPQ_ALL ∨ i = queueId) :
    port.numFor portNo queueId = port.ofPortNum := by
  rw [SwitchPort.numFor]
  split_ifs with hall
  · rfl
  · obtain rfl := hqueue.resolve_left hall
    exact (h.resolve_left hall l hl port hport ⟨queue, hi, hset⟩).symm

/-- The table of the entries that are written. -/
lemma foldl_writes_iff (h : queueId = OFPQ_ALL ∨ ∀ l ∈ s.slots, ∀ port, Selects v portNo l port →
      (∃ queue ∈ port.queues[queueId]?, queue.set = true) → port.ofPortNum = portNo) :
    (s.slots.flatMap (v.writes portNo queueId)).foldl putAt (fun _ => none) key = some e ↔
      Wanted v s portNo queueId e ∧ key = (e.portNo, e.queueId) := by
  constructor
  · intro hwritten
    have hmem := (mem_of_foldl_putAt hwritten).resolve_right nofun
    obtain ⟨l, hl, hmem⟩ := List.mem_flatMap.mp hmem
    obtain ⟨port, hport, i, queue, hi, hset, hqueue, rfl, rfl⟩ := mem_writes.mp hmem
    rw [numFor_eq h hl hport hi hset hqueue]
    exact ⟨⟨l, mem_logicalPorts_of_mem_slots hl, port, hport, i, queue, hi, hset, hqueue, rfl⟩, rfl⟩
  · rintro ⟨⟨l, hl, port, hport, i, queue, hi, hset, hqueue, rfl⟩, rfl⟩
    have hslot := mem_slots_of_attached hl hport
    refine foldl_putAt_of_mem ?_ (.inl (List.mem_flatMap.mpr ⟨l, hslot, mem_writes.mpr
      ⟨port, hport, i, queue, hi, hset, hqueue, ?_⟩⟩))
    · rintro ⟨key, e⟩ hw hkey
      obtain ⟨l', hl', hw⟩ := List.mem_flatMap.mp hw
      obtain ⟨port', hport', i', queue', hi', hset', hqueue', rfl, rfl⟩ := mem_writes.mp hw
      rw [numFor_eq h hl' hport' hi' hset' hqueue'] at hkey ⊢
      obtain ⟨hnum, rfl⟩ := Prod.mk.inj hkey
      obtain rfl := port_eq_of_ofPortNum_eq (mem_logicalPorts_of_mem_slots hl') hl hport' hport hnum
      obtain rfl := Option.some_inj.mp (hi.symm.trans hi')
      rfl
    · rw [numFor_eq h hslot hport hi hset hqueue]
      exact ⟨rfl, rfl⟩

lemma correct_of_fits (h : Fits v s portNo queueId) :
    Correct v s portNo queueId (v.handle (some s) portNo queueId) := by
  by_cases hbad : BadPort v.ofppAll portNo s
  · exact .inl ⟨.inl hbad, handle_badPort hbad⟩
  obtain ⟨hsafe, hnum⟩ := h.resolve_left hbad
  rw [handle_some hbad]
  cases hfind : s.slots.findSome? (v.fault portNo queueId) with
  | some f =>
      obtain ⟨before, l, after, hslots, hfault, hbefore⟩ := List.findSome?_eq_some_iff.mp hfind
      rcases fault_cases hfault with ⟨rfl, hl, hv, hall⟩ | ⟨rfl, hrefuses⟩
      · obtain ⟨r, hr, hrefuses⟩ :=
          (hsafe.resolve_left hv).resolve_left hall before l after hslots hl
        exact absurd ((hbefore r hr).symm.trans (fault_of_refuses hrefuses)) nofun
      · have hmem : l ∈ s.slots := by
          rw [hslots]
          exact List.mem_append_right _ List.mem_cons_self
        exact .inl ⟨.inr ⟨l, hmem, hrefuses⟩, rfl⟩
  | none =>
      have hrefuses : ¬∃ l ∈ s.slots, Refuses v portNo queueId l := by
        rintro ⟨l, hl, hrefuses⟩
        have hnone := List.findSome?_eq_none_iff.mp hfind l hl
        exact absurd (hnone.symm.trans (fault_of_refuses hrefuses)) nofun
      have hown := hnum.imp_right fun h => h.resolve_left hrefuses
      exact .inr ⟨not_or.mpr ⟨hbad, hrefuses⟩, _, rfl, fun key e => foldl_writes_iff hown⟩

lemma answers_of_correct {result : Except Fault QueueStatsArray}
    (h : Correct v s portNo queueId result) : Answers v s portNo queueId result := by
  rcases h with ⟨-, rfl⟩ | ⟨-, array, rfl, harray⟩
  · exact ⟨nofun, nofun, nofun⟩
  · refine ⟨nofun, ?_, ?_⟩
    · rintro _ ⟨⟩ key e he
      exact ((harray key e).mp he).1
    · rintro _ ⟨⟩ e he
      exact ⟨(e.portNo, e.queueId), (harray _ e).mpr ⟨he, rfl⟩,
        fun key hkey => ((harray key e).mp hkey).2⟩

/-- An empty slot is not read when a port before it refuses the request. -/
lemma refuses_of_safe {before after : List LogicalPort}
    (hbad : ¬BadPort v.ofppAll portNo s)
    (hsafe : v.handle (some s) portNo queueId ≠ .error .emptySlot) (hv : v ≠ .of10)
    (hall : portNo ≠ v.ofppAll) (hslots : s.slots = before ++ l :: after) (hl : l.port = none) :
    ∃ r ∈ before, Refuses v portNo queueId r := by
  rw [handle_some hbad, hslots, List.findSome?_append] at hsafe
  cases hfind : before.findSome? (v.fault portNo queueId) with
  | none =>
      rw [hfind, Option.none_or, List.findSome?_cons, fault_of_port_eq_none hl hv hall] at hsafe
      exact absurd rfl hsafe
  | some f =>
      obtain ⟨r, hr, hfault⟩ := List.exists_of_findSome?_eq_some hfind
      rcases fault_cases hfault with ⟨rfl, -⟩ | ⟨-, hrefuses⟩
      · rw [hfind] at hsafe
        exact absurd rfl hsafe
      · exact ⟨r, hr, hrefuses⟩

/-- Where one queue is asked for, all entries are written with the number of the request. -/
lemma ofPortNum_of_answers (hbad : ¬BadPort v.ofppAll portNo s) (hqueue : queueId ≠ OFPQ_ALL)
    (hrefuses : ¬∃ l ∈ s.slots, Refuses v portNo queueId l)
    (h : Answers v s portNo queueId (v.handle (some s) portNo queueId)) (hl : l ∈ s.slots)
    (hport : Selects v portNo l port) (hset : ∃ queue ∈ port.queues[queueId]?, queue.set = true) :
    port.ofPortNum = portNo := by
  obtain ⟨queue, hi, hset⟩ := hset
  have hwanted : Wanted v s portNo queueId (queue.stats port.ofPortNum queueId) :=
    ⟨l, mem_logicalPorts_of_mem_slots hl, port, hport, queueId, queue, hi, hset, .inr rfl, rfl⟩
  rw [handle_some hbad] at h
  cases hfind : s.slots.findSome? (v.fault portNo queueId) with
  | some f =>
      obtain ⟨r, hr, hfault⟩ := List.exists_of_findSome?_eq_some hfind
      rcases fault_cases hfault with ⟨rfl, -⟩ | ⟨-, hrefused⟩
      · rw [hfind] at h
        exact absurd rfl h.safe
      · exact absurd ⟨r, hr, hrefused⟩ hrefuses
  | none =>
      rw [hfind] at h
      obtain ⟨key, hkey, -⟩ := h.complete _ rfl _ hwanted
      have hmem := (mem_of_foldl_putAt hkey).resolve_right nofun
      obtain ⟨l', -, hmem⟩ := List.mem_flatMap.mp hmem
      obtain ⟨port', -, i, queue', -, -, -, -, heq⟩ := mem_writes.mp hmem
      rw [SwitchPort.numFor, if_neg hqueue] at heq
      exact congrArg CofqueueStatsReply.portNo heq

lemma fits_of_answers (h : Answers v s portNo queueId (v.handle (some s) portNo queueId)) :
    Fits v s portNo queueId := by
  by_cases hbad : BadPort v.ofppAll portNo s
  · exact .inl hbad
  refine .inr ⟨?_, ?_⟩
  · by_cases hv : v = .of10
    · exact .inl hv
    by_cases hall : portNo = v.ofppAll
    · exact .inr (.inl hall)
    exact .inr (.inr fun before l after hslots hl => refuses_of_safe hbad h.safe hv hall hslots hl)
  · by_cases hqueue : queueId = OFPQ_ALL
    · exact .inl hqueue
    by_cases hrefuses : ∃ l ∈ s.slots, Refuses v portNo queueId l
    · exact .inr (.inl hrefuses)
    exact .inr (.inr fun l hl port hport hset =>
      ofPortNum_of_answers hbad hqueue hrefuses h hl hport hset)

/-! ## The versions -/

lemma SameRequest.refl : SameRequest v v portNo portNo :=
  (em (portNo = v.ofppAll)).imp (fun h => ⟨h, h⟩) fun h => ⟨rfl, h, h⟩

lemma SameRequest.selects_iff (h : SameRequest v v' portNo portNo') :
    Selects v portNo l port ↔ Selects v' portNo' l port := by
  rcases h with ⟨hall, hall'⟩ | ⟨rfl, hne, hne'⟩
  · simp only [Selects, hall, hall', true_or]
  · simp only [Selects, hne, hne', false_or]

lemma SameRequest.badPort_iff (h : SameRequest v v' portNo portNo') :
    BadPort v.ofppAll portNo s ↔ BadPort v'.ofppAll portNo' s := by
  rcases h with ⟨rfl, rfl⟩ | ⟨rfl, hne, hne'⟩
  · have hpos : ∀ v : Version, v.ofppAll ≠ 0 := fun v => by cases v <;> decide
    simp [BadPort, hpos]
  · simp only [BadPort, hne, hne', ne_eq, not_false_eq_true, and_true]

lemma SameRequest.isRefused_iff (h : SameRequest v v' portNo portNo') :
    IsRefused v s portNo queueId ↔ IsRefused v' s portNo' queueId := by
  simp only [IsRefused, Refuses, h.badPort_iff, h.selects_iff]

lemma SameRequest.wanted_iff (h : SameRequest v v' portNo portNo') :
    Wanted v s portNo queueId e ↔ Wanted v' s portNo' queueId e := by
  simp only [Wanted, h.selects_iff]

/-- Two versions give the same result for the same request. -/
lemma SameRequest.eq_of_correct (h : SameRequest v v' portNo portNo')
    {result result' : Except Fault QueueStatsArray} (hresult : Correct v s portNo queueId result)
    (hresult' : Correct v' s portNo' queueId result') : result' = result := by
  rcases hresult with ⟨hrefused, rfl⟩ | ⟨hnot, array, rfl, harray⟩ <;>
    rcases hresult' with ⟨hrefused', rfl⟩ | ⟨hnot', array', rfl, harray'⟩
  · rfl
  · exact absurd (h.isRefused_iff.mp hrefused) hnot'
  · exact absurd (h.isRefused_iff.mpr hrefused') hnot
  · congr 1
    funext key
    ext e
    rw [harray' key e, harray key e, h.wanted_iff]

/-- A request is answered in the same way in all versions, with the entries that are asked for, if
it meets the conditions of each version. -/
theorem agrees_iff (v : Version) (s : SwitchSnapshot) (portNo queueId : ℕ) :
    Agrees v s portNo queueId ↔
      ∀ v' portNo', SameRequest v v' portNo portNo' → Fits v' s portNo' queueId := by
  constructor
  · exact fun h v' portNo' hsame => fits_of_answers (h v' portNo' hsame).1
  · intro h v' portNo' hsame
    have hcorrect := correct_of_fits (h v' portNo' hsame)
    exact ⟨answers_of_correct hcorrect,
      hsame.eq_of_correct (correct_of_fits (h v portNo .refl)) hcorrect⟩

/-- One port, in slot 2. -/
def onePort : SwitchSnapshot where
  logicalPorts := [⟨.detached, none⟩, ⟨.detached, none⟩, ⟨.attached, some ⟨2, [⟨true, 5, 6, 7⟩]⟩⟩]
  numbered := by
    rintro (_ | _ | _ | n) l hl hattached p hp
    · obtain rfl := Option.some_inj.mp hl
      exact absurd hp nofun
    · obtain rfl := Option.some_inj.mp hl
      exact absurd hp nofun
    · obtain rfl := Option.some_inj.mp hl
      obtain rfl := Option.some_inj.mp hp
      exact ⟨rfl, by decide⟩
    · exact absurd hl nofun

/-- Slot 1 is empty when the queues of port 2 are asked for. -/
theorem not_agrees_onePort : ¬Agrees .of13 onePort 2 OFPQ_ALL := fun h =>
  (h .of13 2 .refl).1.safe rfl

end Xdpd.OpenFlow.QueueStats
