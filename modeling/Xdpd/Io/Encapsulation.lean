import Xdpd.Io.ChecksumUpToDate
import Xdpd.Io.HeaderAtomicity

/-!
# Encapsulation and the calculation of checksums

A header that is pushed around a packet hides the headers with checksums from the classifier: what
was marked before the push is not calculated on output any more.  `Encapsulates` says what a push
leaves of the frame, and where: what is behind the new header, the addresses, and of the rest of the
link layer what the gap has not taken the place of.
-/

namespace Xdpd.Io

open Xdpd.Lib Xdpd.Classifier

namespace Datapacketx86

variable {S : Type*}

/-! ## Writes of the pushes -/

section Writes

variable {a b hdr : ℕ}

lemma staysIn_setPppoeDefaults (ha : a ≤ hdr) (hb : hdr + 6 ≤ b) :
    ∀ write ∈ setPppoeDefaults hdr, StaysIn a b write := by
  simp only [setPppoeDefaults, List.forall_mem_cons, List.not_mem_nil, false_imp_iff, forall_const,
    and_true]
  refine ⟨?_, ?_, ?_, ?_⟩
  · exact staysIn_setWord _ (by omega) (by omega)
  · exact staysIn_setWord _ (by omega) (by omega)
  · exact staysIn_setBits _ _ (by omega) (by omega)
  · exact staysIn_setBits _ _ (by omega) (by omega)

lemma staysIn_setTunnelIpv4 {length : ℕ} {proto : Byte} {ident : BitVec 16} {ip_ttl : Byte}
    {DF_flag : Bool} (ha : a ≤ hdr) (hb : hdr + 20 ≤ b) :
    ∀ write ∈ setTunnelIpv4 hdr length proto ident ip_ttl DF_flag, StaysIn a b write := by
  have hDF : StaysIn a b (if DF_flag then setIpv4DFBit hdr else id) := by
    intro mem i hi
    split_ifs
    · exact setWord_of_not_mem _ _ (by omega)
    · rfl
  simp only [setTunnelIpv4, List.forall_mem_cons, List.not_mem_nil, false_imp_iff, forall_const,
    and_true]
  refine ⟨?_, ?_, ?_, ?_, ?_, ?_, ?_, ?_, ?_, ?_, hDF⟩
  all_goals first
    | exact staysIn_setWord _ (by omega) (by omega)
    | exact staysIn_setBits _ _ (by omega) (by omega)

lemma staysIn_setTunnelIpv6 {length : ℕ} {proto ip_ttl : Byte} (ha : a ≤ hdr)
    (hb : hdr + 40 ≤ b) : ∀ write ∈ setTunnelIpv6 hdr length proto ip_ttl, StaysIn a b write := by
  have hdscp : StaysIn a b (setIpv6Dscp hdr 0) := by
    intro mem i hi
    rw [setIpv6Dscp, setWord_of_not_mem _ _ (by omega), setWord_of_not_mem _ _ (by omega)]
  simp only [setTunnelIpv6, List.forall_mem_cons, List.not_mem_nil, false_imp_iff, forall_const,
    and_true]
  refine ⟨?_, hdscp, ?_, ?_, ?_, ?_, ?_, ?_, ?_, ?_⟩
  all_goals first
    | exact staysIn_setWord _ (by omega) (by omega)
    | exact staysIn_setBits _ _ (by omega) (by omega)

end Writes

/-! ## Types of the pushes -/

section Types

variable {t new : PktType}

lemma pushTransitions_mpls (h : pushTransitions t .mpls = some new) :
    ∃ llc tags n, t.l2 = .plain llc tags ∧ new = ⟨t.l2, .mpls n⟩ := by
  obtain ⟨l2, upper⟩ := t
  cases l2 with
  | isid tagged => cases h
  | plain llc tags =>
      cases upper with
      | mpls n =>
          change (if h : n.val + 2 < 32 then _ else none) = some new at h
          split_ifs at h
          exact ⟨llc, tags, _, rfl, (Option.some_inj.1 h).symm⟩
      | _ => exact ⟨llc, tags, _, rfl, (Option.some_inj.1 h).symm⟩

lemma pushTransitions_pppoe (h : pushTransitions t .pppoe = some new) :
    ∃ llc tags, t.l2 = .plain llc tags ∧ new = ⟨t.l2, .pppoe⟩ ∧ t.upper ≠ .pppoe ∧
      t.upper ≠ .ppp := by
  obtain ⟨l2, upper⟩ := t
  cases l2 with
  | isid tagged => cases h
  | plain llc tags =>
      cases upper with
      | mpls n => cases h
      | pppoe => cases h
      | ppp => cases h
      | _ => exact ⟨llc, tags, rfl, (Option.some_inj.1 h).symm, nofun, nofun⟩

lemma pushTransitions_isid (h : pushTransitions t .isid = some new) :
    new = ⟨.isid false, .none⟩ := by
  obtain ⟨l2, upper⟩ := t
  cases l2 with
  | isid tagged => cases h
  | plain llc tags => exact (Option.some_inj.1 h).symm

/-- The pushes of GTP have a condition of the same form, with an outer header of their own. -/
lemma pushTransitions_gtpu {proto : Proto} {outer : Upper}
    (hproto : proto = .gtpu4 ∧ outer = .ipv4 0 .gtpu4 ∨ proto = .gtpu6 ∧ outer = .ipv6 .gtpu6)
    (h : pushTransitions t proto = some new) :
    ∃ llc, t.l2 = .plain llc 0 ∧ new = ⟨t.l2, outer⟩ := by
  obtain ⟨l2, upper⟩ := t
  cases l2 with
  | isid tagged => rcases hproto with ⟨rfl, -⟩ | ⟨rfl, -⟩ <;> cases h
  | plain llc tags =>
      have hif : (if tags = 0 ∧ upper.takesGtpu then some ⟨.plain llc tags, outer⟩ else none) =
          some new := by
        rcases hproto with ⟨rfl, rfl⟩ | ⟨rfl, rfl⟩
        · exact h
        · exact h
      split_ifs at hif with htags
      obtain ⟨rfl, -⟩ := htags
      exact ⟨llc, rfl, (Option.some_inj.1 hif).symm⟩

lemma pushTransitions_gtpu4 (h : pushTransitions t .gtpu4 = some new) :
    ∃ llc, t.l2 = .plain llc 0 ∧ new = ⟨t.l2, .ipv4 0 .gtpu4⟩ :=
  pushTransitions_gtpu (Or.inl ⟨rfl, rfl⟩) h

lemma pushTransitions_gtpu6 (h : pushTransitions t .gtpu6 = some new) :
    ∃ llc, t.l2 = .plain llc 0 ∧ new = ⟨t.l2, .ipv6 .gtpu6⟩ :=
  pushTransitions_gtpu (Or.inr ⟨rfl, rfl⟩) h

/-- A GRE tunnel has a link layer of its own. -/
lemma pushTransitions_gre {proto : Proto} {outer : Upper}
    (hproto : proto = .gre4 ∧ outer = .ipv4 0 .gre4 ∨ proto = .gre6 ∧ outer = .ipv6 .gre6)
    (h : pushTransitions t proto = some new) : new = ⟨.plain false 0, outer⟩ := by
  obtain ⟨l2, upper⟩ := t
  cases l2 with
  | isid tagged => rcases hproto with ⟨rfl, -⟩ | ⟨rfl, -⟩ <;> cases h
  | plain llc tags =>
      have hif : (if upper.isGre then none else some ⟨.plain false 0, outer⟩) = some new := by
        rcases hproto with ⟨rfl, rfl⟩ | ⟨rfl, rfl⟩
        · exact h
        · exact h
      split_ifs at hif
      exact (Option.some_inj.1 hif).symm

lemma pushTransitions_gre4 (h : pushTransitions t .gre4 = some new) :
    new = ⟨.plain false 0, .ipv4 0 .gre4⟩ :=
  pushTransitions_gre (Or.inl ⟨rfl, rfl⟩) h

lemma pushTransitions_gre6 (h : pushTransitions t .gre6 = some new) :
    new = ⟨.plain false 0, .ipv6 .gre6⟩ :=
  pushTransitions_gre (Or.inr ⟨rfl, rfl⟩) h

end Types

/-! ## Pushes that put a header on -/

section Puts

variable {p : Datapacketx86 S} {op : HeaderOp} {transition : Option PktType} {moved : RoflResult}

end Puts

/-! ## Pushes of tunnels -/

section Pushes

variable {p q : Datapacketx86 S} {ether_type : BitVec 16} {payloadlen : ℕ} {ip_ttl : Byte}
  {DF_flag : Bool}

/-- A push that leaves the length as it is has not pushed. -/
lemma not_lt_self (h : p.len < p.len) : False :=
  absurd h (Nat.lt_irrefl p.len)

/-- A tunnel that is rewritten keeps its length. -/
lemma len_setGtpDefaults (hq : setGtpDefaults payloadlen p = some q) : q.len = p.len := by
  obtain ⟨udp, -, hq⟩ := Option.bind_eq_some_iff.1 hq
  obtain ⟨gtp, -, hq⟩ := Option.bind_eq_some_iff.1 hq
  rw [← Option.some_inj.1 hq]
  exact len_mapBuffer _ _

lemma len_setGreDefaults (hq : setGreDefaults p = some q) : q.len = p.len := by
  obtain ⟨gre, -, hq⟩ := Option.bind_eq_some_iff.1 hq
  rw [← Option.some_inj.1 hq]
  exact len_mapBuffer _ _

/-- The packet with the outer headers of GTP over IPv4, but for those of UDP and GTP. -/
def gtpOverIpv4 (l2 : L2) (payloadlen : ℕ) (ident : BitVec 16) (ip_ttl : Byte) (DF_flag : Bool)
    (p : Datapacketx86 S) : Datapacketx86 S :=
  (({ p with type := ⟨l2, .ipv4 0 .gtpu4⟩ }).mapBuffer (writeAll
    (setEtherType 0 (htonb16 ETH_TYPE_IPV4) :: setTunnelIpv4 l2.len (20 + 8 + 8 + payloadlen)
      UDP_IP_PROTO ident ip_ttl DF_flag))).setRecalculateChecksum .ipv4

/-- The packet with the outer headers of GTP over IPv6, but for those of UDP and GTP. -/
def gtpOverIpv6 (l2 : L2) (payloadlen : ℕ) (ip_ttl : Byte) (p : Datapacketx86 S) :
    Datapacketx86 S :=
  ({ p with type := ⟨l2, .ipv6 .gtpu6⟩ }).mapBuffer (writeAll
    (setEtherType 0 (htonb16 ETH_TYPE_IPV6) :: setTunnelIpv6 l2.len (8 + 8 + payloadlen)
      UDP_IP_PROTO ip_ttl))

/-- What a push of GTP has done: it has put outer headers on, it has found no transition or no room,
or it has written into the headers that are there. -/
lemma pushGtpTunnel_spec (h : p.Placed)
    (hq : p.pushGtpTunnel ether_type payloadlen ip_ttl DF_flag = some q) :
    (∃ llc p', p.type.l2 = .plain llc 0 ∧
      ((htonb16 ether_type = ETH_TYPE_IPV4 ∧ pushTransitions p.type .gtpu4 ≠ none ∧
        p.push 14 36 = (.success, p') ∧ ∃ ident, setGtpDefaults payloadlen
          (p'.gtpOverIpv4 p.type.l2 payloadlen ident ip_ttl DF_flag) = some q) ∨
      (htonb16 ether_type ≠ ETH_TYPE_IPV4 ∧ htonb16 ether_type = ETH_TYPE_IPV6 ∧
        pushTransitions p.type .gtpu6 ≠ none ∧ p.push 14 56 = (.success, p') ∧
        setGtpDefaults payloadlen (p'.gtpOverIpv6 p.type.l2 payloadlen ip_ttl) = some q))) ∨
    ((q = p ∨ q = p.transferToUserSpace) ∧
      ((htonb16 ether_type = ETH_TYPE_IPV4 ∧
        (pushTransitions p.type .gtpu4 = none ∨ (p.push 14 36).1 = .failure)) ∨
      (htonb16 ether_type ≠ ETH_TYPE_IPV4 ∧ htonb16 ether_type = ETH_TYPE_IPV6 ∧
        (pushTransitions p.type .gtpu6 = none ∨ (p.push 14 56).1 = .failure)))) ∨
    (htonb16 ether_type ≠ ETH_TYPE_IPV4 ∧ htonb16 ether_type ≠ ETH_TYPE_IPV6 ∧
      setGtpDefaults payloadlen p = some q) := by
  rw [pushGtpTunnel] at hq
  split_ifs at hq with hipv4 hipv6
  · obtain ⟨ipv4_hdr, -, hq⟩ := Option.bind_eq_some_iff.1 hq
    cases hnew : pushTransitions p.type .gtpu4 with
    | none =>
        simp only [hnew, Option.some_inj] at hq
        exact Or.inr (Or.inl ⟨Or.inl hq.symm, Or.inl ⟨hipv4, Or.inl rfl⟩⟩)
    | some new =>
        obtain ⟨llc, hl2, rfl⟩ := pushTransitions_gtpu4 hnew
        rcases h.push_cases 14 36 with hfail | ⟨p', hpush, -⟩
        · simp only [hnew, hfail, Option.some_inj] at hq
          exact Or.inr (Or.inl ⟨Or.inr hq.symm, Or.inl ⟨hipv4, Or.inr (by rw [hfail])⟩⟩)
        · simp only [hnew, hpush, getIpv4Hdr_ipv4, Option.bind_some] at hq
          exact Or.inl ⟨llc, p', hl2, Or.inl ⟨hipv4, Option.some_ne_none _, hpush, _, hq⟩⟩
  · cases hnew : pushTransitions p.type .gtpu6 with
    | none =>
        simp only [hnew, Option.some_inj] at hq
        exact Or.inr (Or.inl ⟨Or.inl hq.symm, Or.inr ⟨hipv4, hipv6, Or.inl rfl⟩⟩)
    | some new =>
        obtain ⟨llc, hl2, rfl⟩ := pushTransitions_gtpu6 hnew
        rcases h.push_cases 14 56 with hfail | ⟨p', hpush, -⟩
        · simp only [hnew, hfail, Option.some_inj] at hq
          exact Or.inr (Or.inl ⟨Or.inr hq.symm, Or.inr ⟨hipv4, hipv6, Or.inr (by rw [hfail])⟩⟩)
        · simp only [hnew, hpush, getIpv6Hdr_ipv6, Option.bind_some] at hq
          exact Or.inl ⟨llc, p', hl2, Or.inr ⟨hipv4, hipv6, Option.some_ne_none _, hpush, hq⟩⟩
  · exact Or.inr (Or.inr ⟨hipv4, hipv6, hq⟩)

/-- What a push of GTP that makes the frame longer has done. -/
lemma pushGtpTunnel_cases (h : p.Placed)
    (hq : p.pushGtpTunnel ether_type payloadlen ip_ttl DF_flag = some q) (hlen : p.len < q.len) :
    ∃ llc p', p.type.l2 = .plain llc 0 ∧
      ((htonb16 ether_type = ETH_TYPE_IPV4 ∧ p.push 14 36 = (.success, p') ∧
        ∃ ident, setGtpDefaults payloadlen
          (p'.gtpOverIpv4 p.type.l2 payloadlen ident ip_ttl DF_flag) = some q) ∨
      (htonb16 ether_type ≠ ETH_TYPE_IPV4 ∧ p.push 14 56 = (.success, p') ∧
        setGtpDefaults payloadlen (p'.gtpOverIpv6 p.type.l2 payloadlen ip_ttl) = some q)) := by
  rcases pushGtpTunnel_spec h hq with
    ⟨llc, p', hl2, ⟨hipv4, -, hpush, hset⟩ | ⟨hipv4, -, -, hpush, hset⟩⟩ | ⟨rfl | rfl, -⟩ |
      ⟨-, -, hset⟩
  · exact ⟨llc, p', hl2, Or.inl ⟨hipv4, hpush, hset⟩⟩
  · exact ⟨llc, p', hl2, Or.inr ⟨hipv4, hpush, hset⟩⟩
  · exact (not_lt_self hlen).elim
  · rw [len_transferToUserSpace] at hlen
    exact (not_lt_self hlen).elim
  · exact (not_lt_self (len_setGtpDefaults hset ▸ hlen)).elim

/-- The packet with the outer headers of GRE over IPv4, but for that of GRE. -/
def greOverIpv4 (dl_dst dl_src : BitVec 64) (ether_type : BitVec 16) (payloadlen : ℕ)
    (p : Datapacketx86 S) : Datapacketx86 S :=
  (({ p with type := ⟨.plain false 0, .ipv4 0 .gre4⟩ }).mapBuffer (writeAll
    (setGreEther dl_dst dl_src ether_type ++ setTunnelIpv4 14 (20 + 4 + 2 * 4 + payloadlen)
      GRE_IP_PROTO 0 64 true))).setRecalculateChecksum .ipv4

/-- The packet with the outer headers of GRE over IPv6, but for that of GRE. -/
def greOverIpv6 (dl_dst dl_src : BitVec 64) (ether_type : BitVec 16) (payloadlen : ℕ)
    (p : Datapacketx86 S) : Datapacketx86 S :=
  ({ p with type := ⟨.plain false 0, .ipv6 .gre6⟩ }).mapBuffer (writeAll
    (setGreEther dl_dst dl_src ether_type ++ setTunnelIpv6 14 (4 + 2 * 4 + payloadlen)
      GRE_IP_PROTO 64))

/-- What a push of GRE has done. -/
lemma pushGre_spec (h : p.Placed) (hq : p.platformPacketPushGre ether_type = some q) :
    (∃ p' dl_dst dl_src,
      (htonb16 ether_type = ETH_TYPE_IPV4 ∧ pushTransitions p.type .gre4 ≠ none ∧
        p.push 0 46 = (.success, p') ∧
        setGreDefaults (p'.greOverIpv4 dl_dst dl_src ether_type p.len) = some q) ∨
      (htonb16 ether_type ≠ ETH_TYPE_IPV4 ∧ htonb16 ether_type = ETH_TYPE_IPV6 ∧
        pushTransitions p.type .gre6 ≠ none ∧ p.push 0 66 = (.success, p') ∧
        setGreDefaults (p'.greOverIpv6 dl_dst dl_src ether_type p.len) = some q)) ∨
    ((q = p ∨ q = p.transferToUserSpace) ∧
      ((htonb16 ether_type = ETH_TYPE_IPV4 ∧
        (pushTransitions p.type .gre4 = none ∨ (p.push 0 46).1 = .failure)) ∨
      (htonb16 ether_type ≠ ETH_TYPE_IPV4 ∧ htonb16 ether_type = ETH_TYPE_IPV6 ∧
        (pushTransitions p.type .gre6 = none ∨ (p.push 0 66).1 = .failure)))) ∨
    (htonb16 ether_type ≠ ETH_TYPE_IPV4 ∧ htonb16 ether_type ≠ ETH_TYPE_IPV6 ∧
      setGreDefaults p = some q) := by
  rw [platformPacketPushGre] at hq
  split_ifs at hq with hipv4 hipv6
  · cases hnew : pushTransitions p.type .gre4 with
    | none =>
        simp only [hnew, Option.some_inj] at hq
        exact Or.inr (Or.inl ⟨Or.inl hq.symm, Or.inl ⟨hipv4, Or.inl rfl⟩⟩)
    | some new =>
        obtain rfl := pushTransitions_gre4 hnew
        rcases h.push_cases 0 46 with hfail | ⟨p', hpush, -⟩
        · simp only [hnew, hfail, Option.some_inj] at hq
          exact Or.inr (Or.inl ⟨Or.inr hq.symm, Or.inl ⟨hipv4, Or.inr (by rw [hfail])⟩⟩)
        · simp only [hnew, hpush] at hq
          rw [getIpv4Hdr_ipv4, Option.bind_some] at hq
          exact Or.inl ⟨p', _, _, Or.inl ⟨hipv4, Option.some_ne_none _, hpush, hq⟩⟩
  · cases hnew : pushTransitions p.type .gre6 with
    | none =>
        simp only [hnew, Option.some_inj] at hq
        exact Or.inr (Or.inl ⟨Or.inl hq.symm, Or.inr ⟨hipv4, hipv6, Or.inl rfl⟩⟩)
    | some new =>
        obtain rfl := pushTransitions_gre6 hnew
        rcases h.push_cases 0 66 with hfail | ⟨p', hpush, -⟩
        · simp only [hnew, hfail, Option.some_inj] at hq
          exact Or.inr (Or.inl ⟨Or.inr hq.symm, Or.inr ⟨hipv4, hipv6, Or.inr (by rw [hfail])⟩⟩)
        · simp only [hnew, hpush] at hq
          rw [getIpv6Hdr_ipv6, Option.bind_some] at hq
          exact Or.inl ⟨p', _, _, Or.inr ⟨hipv4, hipv6, Option.some_ne_none _, hpush, hq⟩⟩
  · exact Or.inr (Or.inr ⟨hipv4, hipv6, hq⟩)

/-- What a push of GRE that makes the frame longer has done. -/
lemma pushGre_cases (h : p.Placed) (hq : p.platformPacketPushGre ether_type = some q)
    (hlen : p.len < q.len) : ∃ p' dl_dst dl_src,
      (htonb16 ether_type = ETH_TYPE_IPV4 ∧ p.push 0 46 = (.success, p') ∧
        setGreDefaults (p'.greOverIpv4 dl_dst dl_src ether_type p.len) = some q) ∨
      (htonb16 ether_type ≠ ETH_TYPE_IPV4 ∧ p.push 0 66 = (.success, p') ∧
        setGreDefaults (p'.greOverIpv6 dl_dst dl_src ether_type p.len) = some q) := by
  rcases pushGre_spec h hq with
    ⟨p', dl_dst, dl_src, ⟨hipv4, -, hpush, hset⟩ | ⟨hipv4, -, -, hpush, hset⟩⟩ | ⟨rfl | rfl, -⟩ |
      ⟨-, -, hset⟩
  · exact ⟨p', dl_dst, dl_src, Or.inl ⟨hipv4, hpush, hset⟩⟩
  · exact ⟨p', dl_dst, dl_src, Or.inr ⟨hipv4, hpush, hset⟩⟩
  · exact (not_lt_self hlen).elim
  · rw [len_transferToUserSpace] at hlen
    exact (not_lt_self hlen).elim
  · exact (not_lt_self (len_setGreDefaults hset ▸ hlen)).elim

end Pushes

/-! ## Encapsulated packets -/

/-- The ethertype of the packet is where the type has it: the first words are those of an LLC header
if and only if the type says so. -/
def LinkAgrees (p : Datapacketx86 S) : Prop :=
  ∀ llc tags, p.type.l2 = .plain llc tags → isLlcFrame p.getBuffer = llc

/-- The position is not in the ethertype. -/
def OffEtherType (p : Datapacketx86 S) (i : ℕ) : Prop :=
  i < etherTypeOffset p.getBuffer ∨ etherTypeOffset p.getBuffer + 2 ≤ i

/-- A header of `n` bytes has been pushed into a frame at `pos`.  The frame from the position `link`
on is behind it, and the first 14 bytes are before it, with another ethertype.  What is left of the
link layer is where it was in the slot, `n` bytes further on in the frame: other bytes have come in
its place.  All checksums that the classifier still sees are in the header.  A header that is put
before the whole frame has a link layer of its own, and `link` is zero. -/
structure Encapsulates (p q : Datapacketx86 S) (pos link n : ℕ) : Prop where
  len : q.len = p.len + n
  before : ∀ i < 14, i < link → p.OffEtherType i → q.getBuffer i = p.getBuffer i
  gap : ∀ i, 14 ≤ i → i < link → p.OffEtherType i →
    q.getBuffer i = p.userSpaceBuffer (pos + i - n)
  behind : ∀ i, link ≤ i → q.getBuffer (i + n) = p.getBuffer i
  fields : ∀ type hdr, checksumHdr q.type type = some hdr →
    link ≤ hdr ∧ hdr + type.fieldOffset + type.fieldLen ≤ link + n

section Pushed

variable {p q : Datapacketx86 S} {pos offset link n : ℕ}

/-- The calculation on output leaves what is before the header as it is. -/
lemma Encapsulates.output_of_lt (h : Encapsulates p q pos link n) {i : ℕ} (hi : i < link) :
    q.calculateChecksumsInSoftware.getBuffer i = q.getBuffer i := by
  refine output_of_not_mem fun type hdr _ hhdr => Or.inl ?_
  have hle := (h.fields type hdr hhdr).1
  omega

/-- The calculation on output leaves what is behind the header as it is. -/
lemma Encapsulates.output_behind (h : Encapsulates p q pos link n) {i : ℕ} (hi : link ≤ i) :
    q.calculateChecksumsInSoftware.getBuffer (i + n) = p.getBuffer i := by
  rw [output_of_not_mem, h.behind i hi]
  intro type hdr _ hhdr
  have hle := (h.fields type hdr hhdr).2
  exact Or.inr (by omega)

/-- Marks do not matter. -/
lemma Encapsulates.setRecalculateChecksum (h : Encapsulates p q pos link n)
    (type : CalculateChecksum) : Encapsulates p (q.setRecalculateChecksum type) pos link n :=
  ⟨h.len, h.before, h.gap, h.behind, h.fields⟩

/-- A header above the link layer. -/
lemma le_of_protocolOffset {t : PktType} {proto : Proto} {hdr : ℕ} (hproto : proto.isL2 = false)
    (h : protocolOffset t proto = some hdr) : 14 ≤ hdr := by
  obtain ⟨l2, upper⟩ := t
  have hle := l2.le_len
  rw [protocolOffset_above hproto] at h
  obtain ⟨n, -, hstart, -⟩ := mem_of_offsetIn h
  omega

/-- The headers of UDP and GTP are written. -/
lemma setGtpDefaults_spec {t : PktType} {payloadlen a b udp gtp : ℕ}
    (hudp : getUdpHdr t = some udp) (hgtp : getGtpuHdr t = some gtp) (ha : a ≤ udp)
    (hle : udp + 8 ≤ gtp) (hb : gtp + 8 ≤ b)
    (hq : setGtpDefaults payloadlen p = some q) (htype : p.type = t) :
    q.type = t ∧ q.len = p.len ∧ ∀ i, i < a ∨ b ≤ i → q.getBuffer i = p.getBuffer i := by
  simp only [setGtpDefaults, htype, hudp, hgtp, Option.bind_some, Option.some_inj] at hq
  rw [← hq]
  refine ⟨(type_mapBuffer _ _).trans htype, len_mapBuffer _ _, fun i hi => ?_⟩
  refine (congrFun (getBuffer_mapBuffer _ p) i).trans (StaysIn.writeAll ?_ _ _ hi)
  simp only [List.forall_mem_cons, List.not_mem_nil, false_imp_iff, forall_const, and_true]
  refine ⟨?_, ?_, ?_, ?_, ?_, ?_, ?_, ?_, ?_, ?_, ?_⟩
  all_goals first
    | exact staysIn_setWord _ (by omega) (by omega)
    | exact staysIn_setBits _ _ (by omega) (by omega)

/-- The header of GRE is written, with its checksum and its key. -/
lemma setGreDefaults_spec {t : PktType} {a b gre : ℕ} (hgre : getGreHdr t = some gre)
    (ha : a ≤ gre) (hb : gre + 12 ≤ b) (hq : setGreDefaults p = some q) (htype : p.type = t) :
    q.type = t ∧ q.len = p.len ∧ ∀ i, i < a ∨ b ≤ i → q.getBuffer i = p.getBuffer i := by
  simp only [setGreDefaults, htype, hgre, Option.bind_some, Option.some_inj] at hq
  rw [← hq]
  refine ⟨(type_mapBuffer _ _).trans htype, len_mapBuffer _ _, fun i hi => ?_⟩
  refine (congrFun (getBuffer_mapBuffer _ p) i).trans (StaysIn.writeAll ?_ _ _ hi)
  have hkey : StaysIn a b (setGreKey gre 0) := by
    intro mem i hi
    rw [setGreKey]
    split_ifs
    · exact setWord_of_not_mem _ _ (by omega)
    · exact setWord_of_not_mem _ _ (by omega)
    · rfl
  simp only [List.forall_mem_cons, List.not_mem_nil, false_imp_iff, forall_const, and_true]
  refine ⟨?_, ?_, ?_, ?_, ?_, hkey⟩
  all_goals first
    | exact staysIn_setWord _ (by omega) (by omega)
    | exact staysIn_setBits _ _ (by omega) (by omega)

lemma getBuffer_setRecalculateChecksum (type : CalculateChecksum) (p : Datapacketx86 S) :
    (p.setRecalculateChecksum type).getBuffer = p.getBuffer := rfl

/-- Without an IP header `push_gtp` leaves the packet as it is. -/
lemma run_pushGtp_of_not_findsIp (ether_type : BitVec 16) (hip : ¬ HeaderOp.FindsIp p) :
    (HeaderOp.pushGtp ether_type).run p = some p := by
  rw [HeaderOp.FindsIp, currentEtherType] at hip
  rw [HeaderOp.run, Datapacketx86.pushGtp]
  split_ifs at hip ⊢ with hipv4 hipv6
  · rw [not_not.mp hip]
  · rw [not_not.mp fun hhdr => hip ⟨hipv6, hhdr⟩]
  · rfl

lemma staysIn_setGreEther {b : ℕ} {dl_dst dl_src : BitVec 64} {ether_type : BitVec 16}
    (h : 14 ≤ b) : ∀ write ∈ setGreEther dl_dst dl_src ether_type, StaysIn 0 b write := by
  simp only [setGreEther, List.forall_mem_cons, List.not_mem_nil, false_imp_iff, forall_const,
    and_true]
  refine ⟨?_, ?_, staysIn_setWord _ (by omega) (by omega)⟩
  · exact staysIn_setBits _ _ (by omega) (by omega)
  · exact staysIn_setBits _ _ (by omega) (by omega)

end Pushed

end Datapacketx86

end Xdpd.Io
