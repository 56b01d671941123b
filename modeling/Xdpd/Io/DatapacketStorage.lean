import Xdpd.Io.Bufferpool
import Xdpd.Lib.Placement
import Xdpd.Lib.RingIndex
import Xdpd.Lib.Transition

/-!
# The packets in a `datapacket_storage`

A storage gives an `id` to each packet, hands it out to whoever asks for the `id`, and gives up the
oldest packet when it has expired.  The ids come from a counter that starts again at 1 after
`0xfffffffe`, and nothing checks whether the next one is in use.

The history numbers the packets that have been stored.  As long as no packet stays while
`2 ^ 32 - 2` others are stored, the ids are distinct: `storageSound_of_run`.
-/

namespace Xdpd.Io

open Xdpd.Lib

namespace DatapacketStorage

/-! ## Ids -/

/-- The number of ids: all but 0 and `ERROR`. -/
def storeIds : ℕ := 2 ^ 32 - 2

/-- The `id` of the packet that is stored as number `n`, counting from 1.  That of number 0 is where
the counter starts. -/
def storeId (n : ℕ) : BitVec 32 :=
  BitVec.ofNat 32 (n % storeIds + 1)

/-- The constructor. -/
def empty : DatapacketStorage where
  next_id := 1
  store := []

lemma toNat_storeId (n : ℕ) : (storeId n).toNat = n % storeIds + 1 := by
  have hlt : n % storeIds < storeIds := Nat.mod_lt n (by decide)
  have hids : storeIds = 4294967294 := rfl
  rw [storeId, BitVec.toNat_ofNat, Nat.mod_eq_of_lt (by omega)]

lemma storeId_valid (n : ℕ) : storeId n ≠ 0 ∧ storeId n ≠ storageError := by
  have hlt : n % storeIds < storeIds := Nat.mod_lt n (by decide)
  have hids : storeIds = 4294967294 := rfl
  have herror : storageError.toNat = 4294967295 := rfl
  rw [Ne, Ne, ← BitVec.toNat_inj, ← BitVec.toNat_inj, toNat_storeId, herror]
  exact ⟨Nat.succ_ne_zero _, by omega⟩

/-- Two packets that are less than `2 ^ 32 - 2` apart have different ids. -/
lemma storeId_ne {a b : ℕ} (hab : a < b) (hb : b < a + storeIds) : storeId a ≠ storeId b := by
  intro heq
  have hmod := congrArg BitVec.toNat heq
  rw [toNat_storeId, toNat_storeId] at hmod
  exact mod_ne_mod_of_lt hab hb (Nat.succ_injective hmod)

/-- The counter goes on by one, or starts again. -/
lemma nextId_eq {st : DatapacketStorage} {n : ℕ} (h : st.next_id = storeId n) :
    st.nextId = storeId (n + 1) := by
  have hlt : n % storeIds < storeIds := Nat.mod_lt n (by decide)
  have hids : storeIds = 4294967294 := rfl
  have hnext : storeId n + 1 = BitVec.ofNat 32 (n % storeIds + 2) := by
    rw [storeId, BitVec.ofNat_add, BitVec.ofNat_add, BitVec.add_assoc]
    rfl
  have hwrap : storeId n + 1 = storageError ↔ storeIds = n % storeIds + 1 := by
    rw [hnext, ← BitVec.toNat_inj, BitVec.toNat_ofNat, Nat.mod_eq_of_lt (by omega)]
    show _ = 4294967295 ↔ _
    omega
  have hsucc : storeId (n + 1) =
      BitVec.ofNat 32 ((if storeIds = n % storeIds + 1 then 0 else n % storeIds + 1) + 1) := by
    rw [storeId, mod_succ_eq_ite (by decide : 0 < storeIds)]
  rw [nextId, h, hsucc]
  by_cases hlast : storeIds = n % storeIds + 1
  · rw [if_pos (hwrap.mpr hlast), if_pos hlast]
    rfl
  · rw [if_neg (mt hwrap.mp hlast), if_neg hlast, hnext]

end DatapacketStorage

/-! ## Calls -/

/-- A storage and the time of the last call. -/
structure TimedStorage where
  storage : DatapacketStorage
  now : ℤ
  deriving DecidableEq

/-- The calls.  `expire` is what the background task does with the oldest packet. -/
inductive StorageCall
  | storePacket (now : ℤ) (pkt : ℕ)
  | getPacket (id : BitVec 32)
  | expire (now : ℤ)
  deriving DecidableEq, Repr

/-- The history of a storage. -/
structure StorageHistory where
  /-- the packets in the storage, with their numbers, counting from 0 -/
  held : List (ℕ × StoreMapping)
  /-- the packets that have been stored, with their ids -/
  stored : List (BitVec 32 × ℕ)
  /-- the packets that have been handed out, with the ids that were asked for -/
  handedOut : List (BitVec 32 × ℕ)
  deriving DecidableEq

namespace TimedStorage

variable (max_size : ℕ) (expiration_time_sec : ℤ)

/-- The `id` that a call takes out of the storage. -/
def takes (s : TimedStorage) : StorageCall → Option (BitVec 32)
  | .storePacket _ _ => none
  | .getPacket id => some id
  | .expire now => s.storage.oldestPacketNeedsExpiration expiration_time_sec now

/-- The storage after an `id` has been taken out. -/
def take (s : TimedStorage) : Option (BitVec 32) → DatapacketStorage
  | none => s.storage
  | some id => (s.storage.getPacket id).2

/-- One call.  The clock does not go back. -/
def step (s : TimedStorage) (call : StorageCall) : Option TimedStorage :=
  match call with
  | .storePacket now pkt =>
      if now < s.now then none
      else
        match s.storage.storePacket max_size now pkt with
        | none => some { s with now := now }
        | some (_, storage) => some { storage := storage, now := now }
  | .getPacket _ => some { s with storage := s.take (s.takes expiration_time_sec call) }
  | .expire now =>
      if now < s.now then none
      else some { storage := s.take (s.takes expiration_time_sec call), now := now }

/-- The history after an `id` has been taken out. -/
def recordTake (s : TimedStorage) (h : StorageHistory) : Option (BitVec 32) → StorageHistory
  | none => h
  | some id =>
      { h with
        held := h.held.eraseP fun e => e.2.id == id
        handedOut := h.handedOut ++ ((s.storage.getPacket id).1.map fun pkt => (id, pkt)).toList }

/-- A packet that is stored has the number of those that were stored before it. -/
def record (s : TimedStorage) (call : StorageCall) (h : StorageHistory) : StorageHistory :=
  match call with
  | .storePacket now pkt =>
      match s.storage.storePacket max_size now pkt with
      | none => h
      | some (id, _) =>
          { h with
            held := h.held ++ [(h.stored.length, ⟨id, pkt, now⟩)]
            stored := h.stored ++ [(id, pkt)] }
  | .getPacket _ | .expire _ => s.recordTake h (s.takes expiration_time_sec call)

/-- The storage with its history. -/
abbrev observed : TimedStorage × StorageHistory → StorageCall →
    Option (TimedStorage × StorageHistory) :=
  observe (step max_size expiration_time_sec) (record max_size expiration_time_sec)

/-- A new storage. -/
def start (now : ℤ) : TimedStorage × StorageHistory :=
  (⟨.empty, now⟩, ⟨[], [], []⟩)

/-- No packet stays in the storage while `2 ^ 32 - 2` others are stored. -/
def Recent (p : TimedStorage × StorageHistory) : StorageCall → Prop
  | .storePacket _ _ => p.1.storage.store.length < max_size →
      ∀ e ∈ p.2.held, p.2.stored.length < e.1 + DatapacketStorage.storeIds
  | .getPacket _ | .expire _ => True

instance (p : TimedStorage × StorageHistory) :
    ∀ call, Decidable (Recent max_size p call)
  | .storePacket _ _ => inferInstanceAs (Decidable (_ → _))
  | .getPacket _ | .expire _ => inferInstanceAs (Decidable True)

end TimedStorage

/-- What a storage is to be.  What has been stored has been handed out, once and for its own `id`,
or it is still there, and can be had for its `id`. -/
structure StorageSound (max_size : ℕ) (p : TimedStorage × StorageHistory) : Prop where
  distinct : (p.1.storage.store.map StoreMapping.id).Nodup
  valid : ∀ map ∈ p.1.storage.store, map.id ≠ 0 ∧ map.id ≠ storageError
  size : p.1.storage.store.length ≤ max_size
  ordered : (p.1.storage.store.map StoreMapping.input_timestamp).Pairwise (· ≤ ·)
  found : ∀ map ∈ p.1.storage.store, (p.1.storage.getPacket map.id).1 = some map.pkt
  once : p.2.stored.Perm
    (p.2.handedOut ++ p.1.storage.store.map fun map => (map.id, map.pkt))

/-! ## The invariant -/

/-- The packets in the storage have been stored one after the other, each with the `id` of its
number, and the first of them less than `2 ^ 32 - 1` packets ago. -/
structure StorageInv (max_size : ℕ) (p : TimedStorage × StorageHistory) : Prop where
  next_id : p.1.storage.next_id = DatapacketStorage.storeId p.2.stored.length
  held : p.2.held.map Prod.snd = p.1.storage.store
  ids : ∀ e ∈ p.2.held, e.2.id = DatapacketStorage.storeId (e.1 + 1)
  window : ∀ e ∈ p.2.held, e.1 < p.2.stored.length ∧
    p.2.stored.length ≤ e.1 + DatapacketStorage.storeIds
  sorted : p.2.held.Pairwise fun e e' =>
    e.1 < e'.1 ∧ e.2.input_timestamp ≤ e'.2.input_timestamp
  past : ∀ e ∈ p.2.held, e.2.input_timestamp ≤ p.1.now
  size : p.1.storage.store.length ≤ max_size
  once : p.2.stored.Perm
    (p.2.handedOut ++ p.1.storage.store.map fun map => (map.id, map.pkt))

/-- Where the ids are distinct, a search finds the packet of an `id`. -/
lemma find?_id_of_mem {store : List StoreMapping} (h : (store.map StoreMapping.id).Nodup)
    {map : StoreMapping} (hmem : map ∈ store) :
    (store.find? fun m => m.id == map.id) = some map := by
  induction store with
  | nil => simp at hmem
  | cons m store ih =>
      rw [List.map_cons, List.nodup_cons] at h
      rcases List.mem_cons.mp hmem with rfl | hmem
      · simp
      · have hne : m.id ≠ map.id := by
          intro heq
          exact h.1 (heq ▸ List.mem_map_of_mem hmem)
        rw [List.find?_cons_of_neg (by simpa using hne), ih h.2 hmem]

section Invariant

variable {max_size : ℕ} {expiration_time_sec now : ℤ} {s : TimedStorage} {h : StorageHistory}
  {p : TimedStorage × StorageHistory}

lemma storageInv_start (max_size : ℕ) (now : ℤ) : StorageInv max_size (TimedStorage.start now) where
  next_id := rfl
  held := rfl
  ids := by simp [TimedStorage.start]
  window := by simp [TimedStorage.start]
  sorted := List.Pairwise.nil
  past := by simp [TimedStorage.start]
  size := Nat.zero_le max_size
  once := List.Perm.nil

/-- Inside of the window the numbers determine the ids. -/
lemma StorageInv.sound (hp : StorageInv max_size p) : StorageSound max_size p := by
  have hdistinct : (p.1.storage.store.map StoreMapping.id).Nodup := by
    rw [← hp.held, List.map_map, List.Nodup, List.pairwise_map]
    -- two numbers of the window are less than a round apart
    refine hp.sorted.imp_of_mem fun {e e'} he he' hlt => ?_
    have hfirst := hp.window e he
    have hsecond := hp.window e' he'
    show e.2.id ≠ e'.2.id
    rw [hp.ids e he, hp.ids e' he']
    exact DatapacketStorage.storeId_ne (by omega) (by omega)
  refine ⟨hdistinct, ?_, hp.size, ?_, fun map hmap => ?_, hp.once⟩
  · rw [← hp.held]
    rintro map hmap
    obtain ⟨e, he, rfl⟩ := List.mem_map.mp hmap
    rw [hp.ids e he]
    exact DatapacketStorage.storeId_valid _
  · rw [← hp.held, List.map_map, List.pairwise_map]
    exact hp.sorted.imp fun hlt => hlt.2
  · show Option.map _ (List.find? _ _) = _
    rw [find?_id_of_mem hdistinct hmap]
    rfl

/-- Taking a packet out leaves the others, with their numbers. -/
lemma StorageInv.take (hp : StorageInv max_size (s, h)) (id : Option (BitVec 32))
    (hnow : s.now ≤ now) : StorageInv max_size (⟨s.take id, now⟩, s.recordTake h id) := by
  cases id with
  | none => exact { hp with past := fun e he => (hp.past e he).trans hnow }
  | some id =>
      have hsub : (h.held.eraseP fun e => e.2.id == id).Sublist h.held := List.eraseP_sublist
      have hheld : (h.held.eraseP fun e => e.2.id == id).map Prod.snd =
          s.storage.store.eraseP fun map => map.id == id := by
        rw [← hp.held, List.eraseP_map]
        rfl
      refine ⟨hp.next_id, hheld, fun e he => hp.ids e (hsub.subset he),
        fun e he => hp.window e (hsub.subset he), hp.sorted.sublist hsub,
        fun e he => (hp.past e (hsub.subset he)).trans hnow, ?_, ?_⟩
      · exact (List.eraseP_sublist.length_le).trans hp.size
      · show h.stored.Perm (h.handedOut ++
            ((s.storage.store.find? fun map => map.id == id).map StoreMapping.pkt |>.map
              fun pkt => (id, pkt)).toList ++
          (s.storage.store.eraseP fun map => map.id == id).map fun map => (map.id, map.pkt))
        cases hfind : s.storage.store.find? fun map => map.id == id with
        | none =>
            have hnot : ∀ map ∈ s.storage.store, ¬ (map.id == id) = true := by
              simpa using hfind
            rw [List.eraseP_of_forall_not hnot]
            simpa using hp.once
        | some map =>
            -- the packet goes from the storage to those that have been handed out
            have hid : map.id = id := by simpa using List.find?_some hfind
            have hperm := (perm_cons_eraseP_of_find? hfind).map fun map => (map.id, map.pkt)
            subst hid
            refine hp.once.trans ?_
            rw [List.append_assoc]
            exact hperm.append_left h.handedOut

/-- A packet that is stored comes last. -/
lemma StorageInv.store (hp : StorageInv max_size (s, h)) {pkt : ℕ} (hnow : s.now ≤ now)
    (hroom : s.storage.store.length < max_size)
    (hrecent : ∀ e ∈ h.held, h.stored.length < e.1 + DatapacketStorage.storeIds) :
    StorageInv max_size (⟨{ next_id := s.storage.nextId
                            store := s.storage.store ++ [⟨s.storage.nextId, pkt, now⟩] }, now⟩,
      { h with
        held := h.held ++ [(h.stored.length, ⟨s.storage.nextId, pkt, now⟩)]
        stored := h.stored ++ [(s.storage.nextId, pkt)] }) := by
  have hnext := DatapacketStorage.nextId_eq hp.next_id
  have hids : DatapacketStorage.storeIds = 4294967294 := rfl
  have hlength : (h.stored ++ [(s.storage.nextId, pkt)]).length = h.stored.length + 1 := by simp
  refine ⟨?_, ?_, fun e he => ?_, fun e he => ?_, ?_, fun e he => ?_, ?_, ?_⟩
  · show s.storage.nextId = DatapacketStorage.storeId (h.stored ++ _).length
    rw [hlength, hnext]
  · show (h.held ++ _).map Prod.snd = s.storage.store ++ _
    rw [List.map_append, hp.held]
    rfl
  · rcases List.mem_append.mp he with he | he
    · exact hp.ids e he
    · obtain rfl := List.mem_singleton.mp he
      exact hnext
  · -- the window moves on by one, which is what the packets that are there have to allow
    show e.1 < (h.stored ++ _).length ∧ (h.stored ++ _).length ≤ _
    rw [hlength]
    rcases List.mem_append.mp he with he | he
    · have hwindow : e.1 < h.stored.length := (hp.window e he).1
      have hold := hrecent e he
      exact ⟨by omega, by omega⟩
    · obtain rfl := List.mem_singleton.mp he
      exact ⟨Nat.lt_succ_self _, by omega⟩
  · -- the new packet has the largest number, and the clock has not gone back
    refine List.pairwise_append.mpr ⟨hp.sorted, List.pairwise_singleton _ _, fun e he e' he' => ?_⟩
    obtain rfl := List.mem_singleton.mp he'
    exact ⟨(hp.window e he).1, (hp.past e he).trans hnow⟩
  · rcases List.mem_append.mp he with he | he
    · exact (hp.past e he).trans hnow
    · obtain rfl := List.mem_singleton.mp he
      exact le_refl now
  · show (s.storage.store ++ _).length ≤ max_size
    rw [List.length_append]
    exact hroom
  · show (h.stored ++ _).Perm (h.handedOut ++ (s.storage.store ++ _).map _)
    rw [List.map_append, ← List.append_assoc]
    exact hp.once.append_right _

/-- **One call** keeps the invariant, if it gives no `id` that is still in use. -/
lemma StorageInv.step {call : StorageCall} {p' : TimedStorage × StorageHistory}
    (hp : StorageInv max_size p) (hrecent : TimedStorage.Recent max_size p call)
    (hstep : TimedStorage.observed max_size expiration_time_sec p call = some p') :
    StorageInv max_size p' := by
  obtain ⟨s, h⟩ := p
  obtain ⟨s', h'⟩ := p'
  obtain ⟨hs, rfl⟩ := observe_eq_some hstep
  cases call with
  | storePacket now pkt =>
      simp only [TimedStorage.step] at hs
      split_ifs at hs with hnow
      by_cases hfull : max_size ≤ s.storage.store.length
      · have hnone : s.storage.storePacket max_size now pkt = none := if_pos hfull
        simp only [hnone, Option.some_inj] at hs
        subst hs
        simp only [TimedStorage.record, hnone]
        exact hp.take none (not_lt.mp hnow)
      · have hsome : s.storage.storePacket max_size now pkt = some (s.storage.nextId, _) :=
          if_neg hfull
        simp only [hsome, Option.some_inj] at hs
        subst hs
        simp only [TimedStorage.record, hsome]
        exact hp.store (not_lt.mp hnow) (not_le.mp hfull) (hrecent (not_le.mp hfull))
  | getPacket id =>
      obtain rfl : _ = s' := Option.some_inj.mp hs
      exact hp.take (some id) (le_refl s.now)
  | expire now =>
      simp only [TimedStorage.step] at hs
      split_ifs at hs with hnow
      obtain rfl : _ = s' := Option.some_inj.mp hs
      exact hp.take _ (not_lt.mp hnow)

end Invariant

/-! ## Runs -/

/-- **The packets of a storage.**  In a run in which no packet stays while `2 ^ 32 - 2` others are
stored, the ids in the storage are distinct and valid, the storage is not too large and in the order
of time, and every packet is handed out once and for its own `id`. -/
theorem storageSound_of_run {max_size : ℕ} {expiration_time_sec now : ℤ} {calls : List StorageCall}
    {p : TimedStorage × StorageHistory}
    (hrun : Run (TimedStorage.observed max_size expiration_time_sec) (TimedStorage.Recent max_size)
      (TimedStorage.start now) calls p) : StorageSound max_size p :=
  (hrun.invariant (fun _ _ _ hp hrecent hstep => hp.step hrecent hstep)
    (storageInv_start max_size now)).sound

/-- Two packets, of which one is asked for and the other expires. -/
def twoPackets : List StorageCall :=
  [.storePacket 0 7, .storePacket 1 8, .getPacket 2, .getPacket 2, .expire 9, .expire 12]

theorem storageSound_twoPackets : ∃ p, Run (TimedStorage.observed 512 10)
    (TimedStorage.Recent 512) (TimedStorage.start 0) twoPackets p ∧ StorageSound 512 p := by
  have hexec : ∃ p, exec (guarded (TimedStorage.observed 512 10) (TimedStorage.Recent 512))
      (TimedStorage.start 0) twoPackets = some p ∧
        p.2.handedOut = [(2, 7), (3, 8)] := ⟨_, rfl, rfl⟩
  obtain ⟨p, hexec, -⟩ := hexec
  have hrun := run_of_exec_guarded hexec
  exact ⟨p, hrun, storageSound_of_run hrun⟩

/-! ## A wrap of the counter -/

/-- The time of round `i`.  There are `2 ^ 17` rounds in a second. -/
def wrapTime (i : ℕ) : ℤ :=
  ((i / 2 ^ 17 : ℕ) : ℤ)

/-- The packet of a round is stored, and asked for at once. -/
def wrapRound (i : ℕ) : List StorageCall :=
  [.storePacket (wrapTime i) (i + 1), .getPacket (DatapacketStorage.storeId (i + 2))]

/-- A packet stays while so many others come and go. -/
def wrapCalls (n : ℕ) : List StorageCall :=
  .storePacket 0 0 :: (List.range n).flatMap wrapRound

/-- The storage when the first packet is in it, and `n` others have been stored. -/
def wrapStorage (n : ℕ) : DatapacketStorage where
  next_id := DatapacketStorage.storeId (n + 1)
  store := [⟨2, 0, 0⟩]

/-- The second of two packets is taken out. -/
lemma getPacket_second (first second : StoreMapping) (next_id : BitVec 32)
    (h : first.id ≠ second.id) :
    (DatapacketStorage.getPacket second.id ⟨next_id, [first, second]⟩).2 = ⟨next_id, [first]⟩ := by
  simp [DatapacketStorage.getPacket, h]

/-- A round leaves the first packet alone, as long as its `id` is not the one that comes next. -/
lemma run_wrapRound {n : ℕ} {now : ℤ} (hid : DatapacketStorage.storeId (n + 2) ≠ 2)
    (hnow : now ≤ wrapTime n) (h : StorageHistory) : ∃ h',
      Run (TimedStorage.observed 512 65535) anyStep (⟨wrapStorage n, now⟩, h) (wrapRound n)
        (⟨wrapStorage (n + 1), wrapTime n⟩, h') := by
  set time := wrapTime n
  have hnext : (wrapStorage n).nextId = DatapacketStorage.storeId (n + 2) :=
    DatapacketStorage.nextId_eq rfl
  have hstore : TimedStorage.step 512 65535 ⟨wrapStorage n, now⟩ (.storePacket time (n + 1)) =
      some ⟨⟨DatapacketStorage.storeId (n + 2),
        [⟨2, 0, 0⟩, ⟨DatapacketStorage.storeId (n + 2), n + 1, time⟩]⟩, time⟩ := by
    have hroom : (wrapStorage n).storePacket 512 time (n + 1) =
        some (DatapacketStorage.storeId (n + 2), ⟨DatapacketStorage.storeId (n + 2),
          [⟨2, 0, 0⟩, ⟨DatapacketStorage.storeId (n + 2), n + 1, time⟩]⟩) := by
      rw [← hnext]
      rfl
    simp only [TimedStorage.step, if_neg (not_lt.mpr hnow), hroom]
  have hget : TimedStorage.step 512 65535 ⟨⟨DatapacketStorage.storeId (n + 2),
        [⟨2, 0, 0⟩, ⟨DatapacketStorage.storeId (n + 2), n + 1, time⟩]⟩, time⟩
      (.getPacket (DatapacketStorage.storeId (n + 2))) =
        some ⟨wrapStorage (n + 1), time⟩ := by
    have hsecond := getPacket_second ⟨2, 0, 0⟩
      ⟨DatapacketStorage.storeId (n + 2), n + 1, time⟩ (DatapacketStorage.storeId (n + 2)) hid.symm
    exact congrArg (fun storage => some (⟨storage, time⟩ : TimedStorage)) hsecond
  exact ⟨_, .cons trivial (observe_of_step hstore _) (.cons trivial (observe_of_step hget _)
    (.nil _))⟩

/-- The `id` of the first packet comes again after `2 ^ 32 - 2` packets. -/
lemma storeId_ne_two {n : ℕ} (hn : n < 2 ^ 32 - 3) : DatapacketStorage.storeId (n + 2) ≠ 2 :=
  (DatapacketStorage.storeId_ne (a := 1) (by omega)
    (by show n + 2 < 1 + (2 ^ 32 - 2); omega)).symm

lemma run_wrapCalls {n : ℕ} (hn : n ≤ 2 ^ 32 - 3) : ∃ now h, now ≤ wrapTime n ∧
    Run (TimedStorage.observed 512 65535) anyStep (TimedStorage.start 0) (wrapCalls n)
      (⟨wrapStorage n, now⟩, h) := by
  induction n with
  | zero => exact ⟨0, _, le_refl 0, .cons trivial rfl (.nil _)⟩
  | succ n ih =>
      obtain ⟨now, h, hnow, hrun⟩ := ih (by omega)
      obtain ⟨h', hround⟩ := run_wrapRound (storeId_ne_two (by omega)) hnow h
      refine ⟨wrapTime n, h', ?_, ?_⟩
      · exact Int.ofNat_le.mpr (Nat.div_le_div_right (Nat.le_succ n))
      · rw [wrapCalls, List.range_succ, List.flatMap_append, ← List.cons_append]
        refine hrun.append ?_
        simpa using hround

/-- After `2 ^ 32 - 3` rounds, the next packet gets the `id` of the first one. -/
theorem not_storageSound_of_wrap : ∃ p, Run (TimedStorage.observed 512 65535) anyStep
    (TimedStorage.start 0) (wrapCalls (2 ^ 32 - 3) ++ [.storePacket 32767 0]) p ∧
      ¬ StorageSound 512 p := by
  obtain ⟨now, h, hnow, hrun⟩ := run_wrapCalls (n := 2 ^ 32 - 3) (le_refl _)
  have hnext : (wrapStorage (2 ^ 32 - 3)).nextId = 2 :=
    (DatapacketStorage.nextId_eq (n := 2 ^ 32 - 2) rfl).trans (by decide)
  have hclock : ¬ (32767 : ℤ) < now := by
    have htime : wrapTime (2 ^ 32 - 3) = 32767 := by decide
    exact not_lt.mpr (htime ▸ hnow)
  have hroom : (wrapStorage (2 ^ 32 - 3)).storePacket 512 32767 0 =
      some (2, ⟨2, [⟨2, 0, 0⟩, ⟨2, 0, 32767⟩]⟩) := by
    rw [← hnext]
    rfl
  have hstep : TimedStorage.step 512 65535 ⟨wrapStorage (2 ^ 32 - 3), now⟩ (.storePacket 32767 0) =
      some ⟨⟨2, [⟨2, 0, 0⟩, ⟨2, 0, 32767⟩]⟩, 32767⟩ := by
    simp only [TimedStorage.step, if_neg hclock, hroom]
  refine ⟨_, hrun.append (.cons trivial (observe_of_step hstep h) (.nil _)), fun hsound => ?_⟩
  have hdistinct := hsound.distinct
  simp at hdistinct

end Xdpd.Io
