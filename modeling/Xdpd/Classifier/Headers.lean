import Xdpd.Classifier.ParserTable

/-!
# Where the headers are

The functions `get_*_hdr` look up a header in the table of the packet type.  A header that the type
does not have is a `NULL` pointer.  The headers of the link layer end where those above it start.
-/

namespace Xdpd.Classifier

/-! ## The functions -/

section Getters

variable (t : PktType)

/-- `get_ether_hdr`. -/
def getEtherHdr : Option ℕ :=
  (protocolOffset t .ethernet).or (protocolOffset t .eth8023)

/-- `get_vlan_hdr`. -/
def getVlanHdr : Option ℕ := protocolOffset t .vlan

/-- `get_pbb_isid_hdr`. -/
def getPbbIsidHdr : Option ℕ := protocolOffset t .isid

/-- `get_mpls_hdr`, for an index that is not negative. -/
def getMplsHdr (idx : ℕ) : Option ℕ :=
  if idx = 0 then protocolOffset t .mpls
  else if idx < mplsNumOfLabels t then (protocolOffset t .mpls).map (· + idx * 4)
  else none

/-- `get_arpv4_hdr`. -/
def getArpv4Hdr : Option ℕ := protocolOffset t .arpv4

/-- `get_ipv4_hdr`. -/
def getIpv4Hdr : Option ℕ := protocolOffset t .ipv4

/-- `get_icmpv4_hdr`. -/
def getIcmpv4Hdr : Option ℕ := protocolOffset t .icmpv4

/-- `get_ipv6_hdr`. -/
def getIpv6Hdr : Option ℕ := protocolOffset t .ipv6

/-- `get_icmpv6_hdr`. -/
def getIcmpv6Hdr : Option ℕ := protocolOffset t .icmpv6

/-- `get_icmpv6_opt_lladr_source_hdr`. -/
def getIcmpv6OptLladrSourceHdr : Option ℕ :=
  (((protocolOffset t (.icmpv6Opts .lladrSrc)).or (protocolOffset t (.icmpv6NdpOpts .rtrSol))).or
    (protocolOffset t (.icmpv6NdpOpts .rtrAdv))).or (protocolOffset t (.icmpv6NdpOpts .neighSol))

/-- `get_icmpv6_opt_lladr_target_hdr`. -/
def getIcmpv6OptLladrTargetHdr : Option ℕ :=
  (protocolOffset t (.icmpv6Opts .lladrTgt)).or (protocolOffset t (.icmpv6NdpOpts .neighAdv))

/-- `get_sctp_hdr`. -/
def getSctpHdr : Option ℕ := protocolOffset t .sctp

/-- `get_udp_hdr`. -/
def getUdpHdr : Option ℕ := protocolOffset t .udp

/-- `get_tcp_hdr`. -/
def getTcpHdr : Option ℕ := protocolOffset t .tcp

/-- `get_pppoe_hdr`. -/
def getPppoeHdr : Option ℕ := protocolOffset t .pppoe

/-- `get_ppp_hdr`. -/
def getPppHdr : Option ℕ := protocolOffset t .ppp

/-- `get_gtpu_hdr`. -/
def getGtpuHdr : Option ℕ :=
  (protocolOffset t .gtpu4).or (protocolOffset t .gtpu6)

/-- `get_gre_hdr`. -/
def getGreHdr : Option ℕ :=
  (protocolOffset t .gre4).or (protocolOffset t .gre6)

end Getters

/-! ## The link layer -/

variable {l2 : L2} {upper : Upper} {hdr : ℕ}

/-- The length of the link layer. -/
def L2.len (l2 : L2) : ℕ :=
  nameLen l2.name

/-- A header above the link layer is looked up after the link layer. -/
lemma protocolOffset_above {proto : Proto} (hproto : proto.isL2 = false) :
    protocolOffset ⟨l2, upper⟩ proto = offsetIn proto l2.len upper.name := by
  have hl2 : offsetIn proto 0 l2.name = none := by
    rw [← Option.not_isSome_iff_eq_none, offsetIn_isSome]
    intro hmem
    rw [l2.isL2_of_mem_name proto hmem] at hproto
    exact absurd hproto (by decide)
  rw [protocolOffset, PktType.name, offsetIn_append, hl2, Option.none_or, Nat.zero_add, L2.len]

lemma map_fst_entry (protos : List Proto) : (protos.map Proto.entry).map Prod.fst = protos := by
  rw [List.map_map]
  exact List.map_id protos

lemma Ipv4Payload.isL2_of_mem (payload : Ipv4Payload) :
    ∀ proto ∈ payload.protos, proto.isL2 = false := by
  cases payload <;> decide

lemma Ipv6Payload.isL2_of_mem (payload : Ipv6Payload) :
    ∀ proto ∈ payload.protos, proto.isL2 = false := by
  cases payload with
  | icmpv6 payload =>
      cases payload with
      | none => decide
      | opts o => simp [Ipv6Payload.protos, Icmpv6Payload.protos, Proto.isL2]
      | ndp message lladr =>
          cases lladr <;> simp [Ipv6Payload.protos, Icmpv6Payload.protos, Proto.isL2]
  | _ => decide

/-- Nothing above the link layer belongs to it. -/
lemma Upper.isL2_of_mem_name (upper : Upper) :
    ∀ proto ∈ upper.name.map Prod.fst, proto.isL2 = false := by
  intro proto hmem
  cases upper with
  | none => exact absurd hmem List.not_mem_nil
  | mpls n => rw [List.mem_singleton.1 hmem]; rfl
  | pppoe => rw [List.mem_singleton.1 hmem]; rfl
  | ppp => rcases List.mem_pair.1 hmem with rfl | rfl <;> rfl
  | arpv4 => rw [List.mem_singleton.1 hmem]; rfl
  | ipv4 options payload =>
      rw [Upper.name, List.map_cons, map_fst_entry] at hmem
      rcases List.mem_cons.1 hmem with rfl | hmem
      · rfl
      · exact payload.isL2_of_mem proto hmem
  | ipv6 payload =>
      rw [Upper.name, List.map_cons, map_fst_entry] at hmem
      rcases List.mem_cons.1 hmem with rfl | hmem
      · rfl
      · exact payload.isL2_of_mem proto hmem

/-- A header of the link layer is looked up there. -/
lemma protocolOffset_link {proto : Proto} (hproto : proto.isL2 = true) :
    protocolOffset ⟨l2, upper⟩ proto = offsetIn proto 0 l2.name := by
  have hupper : offsetIn proto l2.len upper.name = none := by
    rw [← Option.not_isSome_iff_eq_none, offsetIn_isSome]
    intro hmem
    rw [upper.isL2_of_mem_name proto hmem] at hproto
    exact absurd hproto (by decide)
  rw [protocolOffset, PktType.name, offsetIn_append, Nat.zero_add, ← L2.len, hupper, Option.or_none]

lemma offsetIn_none {proto : Proto} {protos : List Proto} (h : proto ∉ protos) (start : ℕ) :
    offsetIn proto start (protos.map Proto.entry) = none := by
  rw [← Option.not_isSome_iff_eq_none, offsetIn_isSome, map_fst_entry]
  exact h

/-- A header that is found is in the name, at its place. -/
lemma mem_of_offsetIn {proto : Proto} {start off : ℕ} {name : List (Proto × ℕ)}
    (h : offsetIn proto start name = some off) :
    ∃ n, (proto, n) ∈ name ∧ start ≤ off ∧ off + n ≤ start + nameLen name := by
  induction name generalizing start with
  | nil => cases h
  | cons entry name ih =>
      obtain ⟨p, n⟩ := entry
      have hlen : nameLen ((p, n) :: name) = n + nameLen name := by
        rw [nameLen, List.map_cons, List.sum_cons, nameLen]
      rw [offsetIn] at h
      split_ifs at h with hp
      · cases h
        exact ⟨n, hp ▸ List.mem_cons_self, le_refl _, by omega⟩
      · obtain ⟨m, hmem, hstart, hend⟩ := ih h
        exact ⟨m, List.mem_cons_of_mem _ hmem, by omega, by omega⟩

/-- The Ethernet header is the first one of all types. -/
lemma getEtherHdr_eq (t : PktType) : getEtherHdr t = some 0 := by
  obtain ⟨l2, upper⟩ := t
  rw [getEtherHdr, protocolOffset_link rfl, protocolOffset_link rfl]
  cases l2 with
  | plain llc tags => revert llc tags; decide
  | isid tagged => cases tagged <;> rfl

lemma L2.len_of_mem_name (l2 : L2) : ∀ entry ∈ l2.name, entry.2 = entry.1.len := by
  cases l2 with
  | plain llc tags => revert llc tags; decide
  | isid tagged => cases tagged <;> decide

lemma L2.le_len (l2 : L2) : 14 ≤ l2.len := by
  cases l2 with
  | plain llc tags => revert llc tags; decide
  | isid tagged => cases tagged <;> decide

/-- A header of the link layer ends with it or before. -/
lemma add_len_le_of_link {proto : Proto} (hproto : proto.isL2 = true)
    (h : protocolOffset ⟨l2, upper⟩ proto = some hdr) : hdr + proto.len ≤ l2.len := by
  rw [protocolOffset_link hproto] at h
  obtain ⟨n, hmem, -, hend⟩ := mem_of_offsetIn h
  have hn : n = proto.len := l2.len_of_mem_name _ hmem
  rw [Nat.zero_add, hn] at hend
  exact hend

/-! ## Above the link layer -/

/-- A header is that of IP or above it. -/
def Proto.isIpStack : Proto → Bool
  | .ethernet | .eth8023 | .mpls | .vlan | .isid | .pppoe | .ppp | .arpv4 => false
  | _ => true

/-- There is an IP header above the link layer. -/
def Upper.isIp : Upper → Bool
  | .ipv4 _ _ | .ipv6 _ => true
  | _ => false

/-- A header belongs to ICMPv6. -/
def Proto.isIcmpv6 : Proto → Bool
  | .icmpv6 | .icmpv6Ndp _ | .icmpv6NdpOpts _ | .icmpv6Redirect | .icmpv6Opts _ => true
  | _ => false

lemma Ipv6Payload.isIcmpv6_of_mem (payload : Icmpv6Payload) :
    ∀ proto ∈ (Ipv6Payload.icmpv6 payload).protos, proto.isIcmpv6 = true := by
  cases payload with
  | none => decide
  | opts o => simp [Ipv6Payload.protos, Icmpv6Payload.protos, Proto.isIcmpv6]
  | ndp message lladr =>
      cases lladr <;> simp [Ipv6Payload.protos, Icmpv6Payload.protos, Proto.isIcmpv6]

lemma Ipv4Payload.isIpStack_of_mem (payload : Ipv4Payload) :
    ∀ proto ∈ payload.protos, proto.isIpStack = true ∧ proto.isIcmpv6 = false := by
  cases payload <;> decide

lemma Ipv6Payload.isIpStack_of_mem (payload : Ipv6Payload) :
    ∀ proto ∈ payload.protos, proto.isIpStack = true := by
  cases payload with
  | icmpv6 payload =>
      intro proto hmem
      have hicmpv6 := Ipv6Payload.isIcmpv6_of_mem payload proto hmem
      cases proto <;> first | rfl | cases hicmpv6
  | _ => decide

lemma Ipv6Payload.isIcmpv6_of_ne (payload : Ipv6Payload) (h : ∀ m, payload ≠ .icmpv6 m) :
    ∀ proto ∈ payload.protos, proto.isIcmpv6 = false := by
  cases payload with
  | icmpv6 m => exact absurd rfl (h m)
  | _ => decide

lemma Upper.isIpStack_of_mem_name (upper : Upper) :
    ∀ proto ∈ upper.name.map Prod.fst, proto.isIpStack = upper.isIp := by
  intro proto hmem
  cases upper with
  | ipv4 options payload =>
      rw [Upper.name, List.map_cons, map_fst_entry] at hmem
      rcases List.mem_cons.1 hmem with rfl | hmem
      · rfl
      · exact (payload.isIpStack_of_mem proto hmem).1
  | ipv6 payload =>
      rw [Upper.name, List.map_cons, map_fst_entry] at hmem
      rcases List.mem_cons.1 hmem with rfl | hmem
      · rfl
      · exact payload.isIpStack_of_mem proto hmem
  | none => exact absurd hmem List.not_mem_nil
  | mpls n => rw [List.mem_singleton.1 hmem]; rfl
  | pppoe => rw [List.mem_singleton.1 hmem]; rfl
  | ppp => rcases List.mem_pair.1 hmem with rfl | rfl <;> rfl
  | arpv4 => rw [List.mem_singleton.1 hmem]; rfl

/-- A type has headers of IP and above it, or it has others above the link layer. -/
lemma isIp_of_protocolOffset {proto : Proto} (hproto : proto.isL2 = false)
    (h : protocolOffset ⟨l2, upper⟩ proto = some hdr) : upper.isIp = proto.isIpStack := by
  rw [protocolOffset_above hproto] at h
  obtain ⟨n, hmem, -, -⟩ := mem_of_offsetIn h
  exact (upper.isIpStack_of_mem_name proto (List.mem_map_of_mem hmem)).symm

section Above

variable {proto : Proto} {options : Fin 16} {payload4 : Ipv4Payload} {payload6 : Ipv6Payload}

@[simp] lemma getIpv4Hdr_ipv4 : getIpv4Hdr ⟨l2, .ipv4 options payload4⟩ = some l2.len := by
  rw [getIpv4Hdr, protocolOffset_above rfl]
  rfl

@[simp] lemma getIpv6Hdr_ipv6 : getIpv6Hdr ⟨l2, .ipv6 payload6⟩ = some l2.len := by
  rw [getIpv6Hdr, protocolOffset_above rfl]
  rfl

/-- What an IPv4 header carries is looked up after it. -/
lemma protocolOffset_ipv4 (hproto : proto.isL2 = false) (hne : proto ≠ .ipv4) :
    protocolOffset ⟨l2, .ipv4 options payload4⟩ proto =
      offsetIn proto (l2.len + (20 + options.val * 4)) (payload4.protos.map Proto.entry) := by
  rw [protocolOffset_above hproto, Upper.name, offsetIn, if_neg (Ne.symm hne)]
  rfl

/-- What an IPv6 header carries is looked up after it. -/
lemma protocolOffset_ipv6 (hproto : proto.isL2 = false) (hne : proto ≠ .ipv6) :
    protocolOffset ⟨l2, .ipv6 payload6⟩ proto =
      offsetIn proto (l2.len + 40) (payload6.protos.map Proto.entry) := by
  rw [protocolOffset_above hproto, Upper.name, Proto.entry, offsetIn, if_neg (Ne.symm hne)]
  rfl

@[simp] lemma getTcpHdr_ipv4 : getTcpHdr ⟨l2, .ipv4 options payload4⟩ =
    if payload4 = .tcp then some (l2.len + (20 + options.val * 4)) else none := by
  rw [getTcpHdr, protocolOffset_ipv4 rfl (by decide)]
  cases payload4 <;> rfl

@[simp] lemma getUdpHdr_ipv4 : getUdpHdr ⟨l2, .ipv4 options payload4⟩ =
    if payload4 = .udp ∨ payload4 = .gtpu4 then some (l2.len + (20 + options.val * 4))
    else none := by
  rw [getUdpHdr, protocolOffset_ipv4 rfl (by decide)]
  cases payload4 <;> rfl

@[simp] lemma getIcmpv4Hdr_ipv4 : getIcmpv4Hdr ⟨l2, .ipv4 options payload4⟩ =
    if payload4 = .icmpv4 then some (l2.len + (20 + options.val * 4)) else none := by
  rw [getIcmpv4Hdr, protocolOffset_ipv4 rfl (by decide)]
  cases payload4 <;> rfl

@[simp] lemma getSctpHdr_ipv4 : getSctpHdr ⟨l2, .ipv4 options payload4⟩ =
    if payload4 = .sctp then some (l2.len + (20 + options.val * 4)) else none := by
  rw [getSctpHdr, protocolOffset_ipv4 rfl (by decide)]
  cases payload4 <;> rfl

@[simp] lemma getGtpuHdr_ipv4 : getGtpuHdr ⟨l2, .ipv4 options payload4⟩ =
    if payload4 = .gtpu4 then some (l2.len + (20 + options.val * 4) + 8) else none := by
  rw [getGtpuHdr, protocolOffset_ipv4 rfl (by decide), protocolOffset_ipv4 rfl (by decide)]
  cases payload4 <;> rfl

@[simp] lemma getGreHdr_ipv4 : getGreHdr ⟨l2, .ipv4 options payload4⟩ =
    if payload4 = .gre4 then some (l2.len + (20 + options.val * 4)) else none := by
  rw [getGreHdr, protocolOffset_ipv4 rfl (by decide), protocolOffset_ipv4 rfl (by decide)]
  cases payload4 <;> rfl

@[simp] lemma getIpv6Hdr_ipv4 : getIpv6Hdr ⟨l2, .ipv4 options payload4⟩ = none := by
  rw [getIpv6Hdr, protocolOffset_ipv4 rfl (by decide)]
  cases payload4 <;> rfl

@[simp] lemma getIcmpv6Hdr_ipv4 : getIcmpv6Hdr ⟨l2, .ipv4 options payload4⟩ = none := by
  rw [getIcmpv6Hdr, protocolOffset_ipv4 rfl (by decide)]
  cases payload4 <;> rfl

/-- A header that does not belong to ICMPv6 is not in an ICMPv6 message. -/
lemma offsetIn_icmpv6 (hproto : proto.isIcmpv6 = false) (payload : Icmpv6Payload) (start : ℕ) :
    offsetIn proto start ((Ipv6Payload.icmpv6 payload).protos.map Proto.entry) = none := by
  refine offsetIn_none (fun hmem => ?_) start
  rw [Ipv6Payload.isIcmpv6_of_mem payload proto hmem] at hproto
  exact absurd hproto (by decide)

@[simp] lemma getIpv4Hdr_ipv6 : getIpv4Hdr ⟨l2, .ipv6 payload6⟩ = none := by
  rw [getIpv4Hdr, protocolOffset_ipv6 rfl (by decide)]
  cases payload6 with
  | icmpv6 payload => exact offsetIn_icmpv6 rfl payload _
  | _ => rfl

@[simp] lemma getIcmpv4Hdr_ipv6 : getIcmpv4Hdr ⟨l2, .ipv6 payload6⟩ = none := by
  rw [getIcmpv4Hdr, protocolOffset_ipv6 rfl (by decide)]
  cases payload6 with
  | icmpv6 payload => exact offsetIn_icmpv6 rfl payload _
  | _ => rfl

@[simp] lemma getTcpHdr_ipv6 : getTcpHdr ⟨l2, .ipv6 payload6⟩ =
    if payload6 = .tcp then some (l2.len + 40) else none := by
  rw [getTcpHdr, protocolOffset_ipv6 rfl (by decide)]
  cases payload6 with
  | icmpv6 payload => exact offsetIn_icmpv6 rfl payload _
  | _ => rfl

@[simp] lemma getUdpHdr_ipv6 : getUdpHdr ⟨l2, .ipv6 payload6⟩ =
    if payload6 = .udp ∨ payload6 = .gtpu6 then some (l2.len + 40) else none := by
  rw [getUdpHdr, protocolOffset_ipv6 rfl (by decide)]
  cases payload6 with
  | icmpv6 payload => exact offsetIn_icmpv6 rfl payload _
  | _ => rfl

@[simp] lemma getSctpHdr_ipv6 : getSctpHdr ⟨l2, .ipv6 payload6⟩ =
    if payload6 = .sctp then some (l2.len + 40) else none := by
  rw [getSctpHdr, protocolOffset_ipv6 rfl (by decide)]
  cases payload6 with
  | icmpv6 payload => exact offsetIn_icmpv6 rfl payload _
  | _ => rfl

@[simp] lemma getGtpuHdr_ipv6 : getGtpuHdr ⟨l2, .ipv6 payload6⟩ =
    if payload6 = .gtpu6 then some (l2.len + 40 + 8) else none := by
  rw [getGtpuHdr, protocolOffset_ipv6 rfl (by decide), protocolOffset_ipv6 rfl (by decide)]
  cases payload6 with
  | icmpv6 payload =>
      rw [offsetIn_icmpv6 rfl, offsetIn_icmpv6 rfl]
      rfl
  | _ => rfl

@[simp] lemma getGreHdr_ipv6 : getGreHdr ⟨l2, .ipv6 payload6⟩ =
    if payload6 = .gre6 then some (l2.len + 40) else none := by
  rw [getGreHdr, protocolOffset_ipv6 rfl (by decide), protocolOffset_ipv6 rfl (by decide)]
  cases payload6 with
  | icmpv6 payload =>
      rw [offsetIn_icmpv6 rfl, offsetIn_icmpv6 rfl]
      rfl
  | _ => rfl

/-- The ICMPv6 header, whatever the message. -/
lemma getIcmpv6Hdr_ipv6 : getIcmpv6Hdr ⟨l2, .ipv6 payload6⟩ = some hdr ↔
    (∃ payload, payload6 = .icmpv6 payload) ∧ hdr = l2.len + 40 := by
  rw [getIcmpv6Hdr, protocolOffset_ipv6 rfl (by decide)]
  cases payload6 with
  | icmpv6 payload =>
      rw [Ipv6Payload.protos, List.map_cons, Proto.entry, offsetIn, if_pos rfl, Option.some_inj]
      exact ⟨fun h => ⟨⟨payload, rfl⟩, h.symm⟩, fun h => h.2.symm⟩
  | _ =>
      refine iff_of_false (fun h => Option.some_ne_none _ h.symm) ?_
      rintro ⟨⟨payload, ⟨⟩⟩, -⟩

/-- The options of a message come after the ICMPv6 header. -/
lemma le_of_icmpv6 (hproto : proto.isIcmpv6 = true) (hne : proto ≠ .icmpv6)
    (h : protocolOffset ⟨l2, upper⟩ proto = some hdr) :
    (∃ payload, upper = .ipv6 (.icmpv6 payload)) ∧ l2.len + 44 ≤ hdr := by
  have hl2 : proto.isL2 = false := by cases proto <;> first | rfl | cases hproto
  have hipv4 : proto ≠ .ipv4 := by rintro rfl; cases hproto
  have hipv6 : proto ≠ .ipv6 := by rintro rfl; cases hproto
  have hstack : proto.isIpStack = true := by cases proto <;> first | rfl | cases hproto
  have hip := isIp_of_protocolOffset hl2 h
  have hnone (protos : List Proto) (start : ℕ) (hprotos : ∀ p ∈ protos, p.isIcmpv6 = false) :
      offsetIn proto start (protos.map Proto.entry) = none :=
    offsetIn_none (fun hmem => by rw [hprotos proto hmem] at hproto; cases hproto) start
  rw [hstack] at hip
  cases upper with
  | ipv4 options payload =>
      rw [protocolOffset_ipv4 hl2 hipv4,
        hnone _ _ fun p hmem => (payload.isIpStack_of_mem p hmem).2] at h
      cases h
  | ipv6 payload =>
      rw [protocolOffset_ipv6 hl2 hipv6] at h
      by_cases hpayload : ∃ m, payload = .icmpv6 m
      · obtain ⟨m, rfl⟩ := hpayload
        rw [Ipv6Payload.protos, List.map_cons, Proto.entry, offsetIn, if_neg (Ne.symm hne)] at h
        obtain ⟨n, -, hle, -⟩ := mem_of_offsetIn h
        exact ⟨⟨m, rfl⟩, hle⟩
      · rw [hnone _ _ (payload.isIcmpv6_of_ne fun m hm => hpayload ⟨m, hm⟩)] at h
        cases h
  | _ => cases hip

end Above

end Xdpd.Classifier
