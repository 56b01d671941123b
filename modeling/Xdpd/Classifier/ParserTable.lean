import Xdpd.Classifier.ParserBounds

/-!
# The table and the parser

The generated table gives the offsets of the headers for each type; the parser knows where it has
entered them.  They agree if and only if the tables have types for all headers that the frame
announces: `tableAgrees_classifyPacket_iff`.

The invariant is that the parser is where the name of its type ends.  A header that is added to the
name is then in the table where the parser has entered it.
-/

namespace Xdpd.Classifier

open Xdpd.Lib

/-- The table agrees with the parser: it has exactly the headers that the parser has entered, with
the position of the first one of each protocol, and it has the ethertype that the parser has gone by
last. -/
def Walk.TableAgrees (w : Walk) : Prop :=
  (∀ proto, protocolOffset w.type proto = w.entered.lookup proto) ∧
    ethTypeOffset w.type = w.ethType

/-- There are types for all of the headers. -/
def HaveTypes (headers : List (Header × ℕ)) : Prop :=
  ∀ h ∈ headers, h.1.hasType = true

@[simp] lemma haveTypes_nil : HaveTypes [] := by
  simp [HaveTypes]

@[simp] lemma haveTypes_cons {h : Header} {pos : ℕ} {headers : List (Header × ℕ)} :
    HaveTypes ((h, pos) :: headers) ↔ h.hasType = true ∧ HaveTypes headers := by
  simp [HaveTypes]

/-! ## Names -/

/-- The length of the headers of a name. -/
def nameLen (name : List (Proto × ℕ)) : ℕ :=
  (name.map Prod.snd).sum

@[simp] lemma nameLen_append (name name' : List (Proto × ℕ)) :
    nameLen (name ++ name') = nameLen name + nameLen name' := by
  rw [nameLen, List.map_append, List.sum_append, nameLen, nameLen]

@[simp] lemma nameLen_singleton (proto : Proto) (n : ℕ) : nameLen [(proto, n)] = n := by
  simp [nameLen]

lemma offsetIn_append (proto : Proto) (len : ℕ) (name name' : List (Proto × ℕ)) :
    offsetIn proto len (name ++ name') =
      (offsetIn proto len name).or (offsetIn proto (len + nameLen name) name') := by
  induction name generalizing len with
  | nil => rfl
  | cons entry name ih =>
      obtain ⟨p, n⟩ := entry
      have hlen : len + n + nameLen name = len + nameLen ((p, n) :: name) := by
        simp only [nameLen, List.map_cons, List.sum_cons]
        omega
      rw [List.cons_append, offsetIn, offsetIn, ih, hlen]
      split_ifs <;> rfl

/-- The parser is where the name of its type ends. -/
def Walk.AtEnd (w : Walk) : Prop :=
  w.pos = nameLen w.type.name

variable {w : Walk} {l2 : L2}

/-! ## Steps -/

lemma lookup_other {proto proto' : Proto} {pos : ℕ} (h : proto ≠ proto') :
    List.lookup proto [(proto', pos)] = none := by
  rw [List.lookup_cons, beq_eq_false_iff_ne.2 h, List.lookup_nil]

lemma offsetIn_singleton (proto proto' : Proto) (len n : ℕ) :
    offsetIn proto len [(proto', n)] = List.lookup proto [(proto', len)] := by
  rw [offsetIn, offsetIn]
  by_cases hp : proto' = proto
  · rw [if_pos hp, hp, List.lookup_cons_self]
  · rw [if_neg hp, lookup_other (Ne.symm hp)]

/-- A header at the end of the name is added to it. -/
lemma Walk.TableAgrees.add {w' : Walk} {proto : Proto} {n : ℕ} (h : w.TableAgrees)
    (hname : w'.type.name = w.type.name ++ [(proto, n)])
    (hentered : w'.entered = w.entered ++ [(proto, nameLen w.type.name)])
    (hethType : ethTypeOffset w'.type = w'.ethType) : w'.TableAgrees := by
  refine ⟨fun p => ?_, hethType⟩
  rw [protocolOffset, hname, offsetIn_append, Nat.zero_add, offsetIn_singleton, hentered,
    List.lookup_append]
  exact congrArg (Option.or · _) (h.1 p)

/-- The same, above the link layer. -/
lemma Walk.TableAgrees.above {w' : Walk} {upper upper' : Upper} {proto : Proto} {n : ℕ}
    (h : w.TableAgrees) (hw : w.type = ⟨l2, upper⟩) (hw' : w'.type = ⟨l2, upper'⟩)
    (hname : upper'.name = upper.name ++ [(proto, n)])
    (hentered : w'.entered = w.entered ++ [(proto, nameLen w.type.name)])
    (hethType : w'.ethType = w.ethType) : w'.TableAgrees := by
  refine h.add (n := n) ?_ hentered ?_
  · rw [hw', hw, PktType.name, PktType.name, hname, List.append_assoc]
  · rw [hethType, ← h.2, hw', hw]
    rfl

/-- A further header of a protocol that is in the name already. -/
lemma Walk.TableAgrees.again {w' : Walk} {proto : Proto} {pos : ℕ} (h : w.TableAgrees)
    (htable : protocolOffset w'.type = protocolOffset w.type)
    (hmem : proto ∈ w.type.name.map Prod.fst)
    (hentered : w'.entered = w.entered ++ [(proto, pos)])
    (hethType : ethTypeOffset w'.type = w'.ethType) : w'.TableAgrees := by
  refine ⟨fun p => ?_, hethType⟩
  rw [htable, hentered, List.lookup_append, ← h.1 p]
  by_cases hp : p = proto
  · obtain ⟨i, hi⟩ := Option.isSome_iff_exists.1 ((offsetIn_isSome proto 0 w.type.name).2 hmem)
    rw [hp, protocolOffset, hi]
    rfl
  · rw [lookup_other hp, Option.or_none]

/-- A header that the parser has entered, but that is not in the name. -/
lemma not_tableAgrees (proto : Proto) (pos : ℕ) (hentered : (proto, pos) ∈ w.entered)
    (hname : proto ∉ w.type.name.map Prod.fst) : ¬ w.TableAgrees := by
  intro h
  have hnone : w.entered.lookup proto = none := by
    rw [← h.1 proto, ← Option.not_isSome_iff_eq_none]
    exact fun hsome => hname ((offsetIn_isSome proto 0 w.type.name).1 hsome)
  exact absurd rfl (bne_iff_ne.1 (List.lookup_eq_none_iff.1 hnone _ hentered))

/-! ## Above IP -/

variable (data : ℕ → Byte)

/-- A protocol above the link layer is not in the name of the link layer. -/
lemma not_mem_name {upper : Upper} {proto : Proto} (hproto : proto.isL2 = false)
    (hupper : proto ∉ upper.name.map Prod.fst) :
    proto ∉ (PktType.mk l2 upper).name.map Prod.fst := by
  rw [PktType.name, List.map_append, List.mem_append]
  rintro (hl2 | hmem)
  · rw [l2.isL2_of_mem_name proto hl2] at hproto
    exact absurd hproto (by decide)
  · exact hupper hmem

lemma tableAgrees_parseLast {upper upper' : Upper} {proto : Proto} (h : w.TableAgrees)
    (hend : w.AtEnd) (hw : w.type = ⟨l2, upper⟩)
    (hadd : parseUpper upper (.of proto) = some upper') (hproto : proto.isL2 = false)
    (hname : upper'.name = upper.name ++ [proto.entry]) : (parseLast proto w).TableAgrees := by
  rw [parseLast, Walk.addProto_above (w := w.enter proto 0) hw hadd hproto]
  exact h.above hw rfl hname (by rw [← hend]; rfl) rfl

lemma tableAgrees_parseGtp_ipv4 {options : Fin 16} (h : w.TableAgrees) (hend : w.AtEnd)
    (hw : w.type = ⟨l2, .ipv4 options .udp⟩) : (parseGtp w).TableAgrees := by
  have hipv4 : w.has .ipv4 = true := by rw [Walk.has_eq hw rfl]; simp [Upper.name]
  rw [parseGtp, hipv4, if_pos rfl]
  split_ifs
  · exact h
  · exact tableAgrees_parseLast h hend hw rfl rfl rfl

lemma tableAgrees_parseGtp_ipv6 (h : w.TableAgrees) (hend : w.AtEnd)
    (hw : w.type = ⟨l2, .ipv6 .udp⟩) : (parseGtp w).TableAgrees := by
  have hipv4 : w.has .ipv4 = false := by rw [Walk.has_eq hw rfl]; rfl
  have hipv6 : w.has .ipv6 = true := by rw [Walk.has_eq hw rfl]; rfl
  rw [parseGtp, hipv4, hipv6, if_neg (by decide : ¬ false = true), if_pos rfl]
  split_ifs
  · exact h
  · exact tableAgrees_parseLast h hend hw rfl rfl rfl

/-- The UDP header, in a type that has it. -/
lemma udp_added {upper : Upper} (upper' : Upper) (h : w.TableAgrees) (hend : w.AtEnd)
    (hw : w.type = ⟨l2, upper⟩) (hname : upper'.name = upper.name ++ [Proto.udp.entry]) :
    (((w.enter .udp 0).advance 8).setType ⟨l2, upper'⟩).TableAgrees ∧
      (((w.enter .udp 0).advance 8).setType ⟨l2, upper'⟩).AtEnd := by
  refine ⟨h.above hw rfl hname (by rw [← hend]; rfl) rfl, ?_⟩
  show w.pos + 8 = nameLen (l2.name ++ upper'.name)
  rw [hname, ← List.append_assoc, nameLen_append, hend, hw]
  rfl

lemma tableAgrees_parseUdp_ipv4 {options : Fin 16} (h : w.TableAgrees) (hend : w.AtEnd)
    (hw : w.type = ⟨l2, .ipv4 options .none⟩) : (parseUdp data w).TableAgrees := by
  obtain ⟨hudp, hudpEnd⟩ := udp_added (.ipv4 options .udp) h hend hw rfl
  rw [parseUdp, Walk.addProto_above (w := (w.enter .udp 0).advance 8) hw rfl rfl]
  split_ifs
  · exact tableAgrees_parseGtp_ipv4 hudp hudpEnd rfl
  · exact hudp
  · exact hudp

lemma tableAgrees_parseUdp_ipv6 (h : w.TableAgrees) (hend : w.AtEnd)
    (hw : w.type = ⟨l2, .ipv6 .none⟩) : (parseUdp data w).TableAgrees := by
  obtain ⟨hudp, hudpEnd⟩ := udp_added (.ipv6 .udp) h hend hw rfl
  rw [parseUdp, Walk.addProto_above (w := (w.enter .udp 0).advance 8) hw rfl rfl]
  split_ifs
  · exact tableAgrees_parseGtp_ipv6 hudp hudpEnd rfl
  · exact hudp
  · exact hudp

lemma tableAgrees_parseIpv4Payload {options : Fin 16} (h : w.TableAgrees) (hend : w.AtEnd)
    (hw : w.type = ⟨l2, .ipv4 options .none⟩) (proto : Byte) :
    (parseIpv4Payload data proto w).TableAgrees := by
  rw [parseIpv4Payload]
  split_ifs
  · exact tableAgrees_parseLast h hend hw rfl rfl rfl
  · exact tableAgrees_parseUdp_ipv4 data h hend hw
  · exact tableAgrees_parseLast h hend hw rfl rfl rfl
  · exact tableAgrees_parseLast h hend hw rfl rfl rfl
  · have hipv4 : w.has .ipv4 = true := by rw [Walk.has_eq hw rfl]; simp [Upper.name]
    rw [parseGre, hipv4, if_pos rfl]
    split_ifs
    · exact h
    · exact tableAgrees_parseLast h hend hw rfl rfl rfl
  · exact h

lemma entered_parseLast {entry : Proto × ℕ} (proto : Proto) (h : entry ∈ w.entered) :
    entry ∈ (parseLast proto w).entered := by
  rw [parseLast, Walk.addProto]
  cases parseTransitions (w.enter proto 0).type (.of proto) with
  | none => exact List.mem_append_left _ h
  | some t => exact List.mem_append_left _ h

/-- What the parser has entered before an IPv4 payload that has no type stays entered. -/
lemma entered_parseIpv4Payload {entry : Proto × ℕ} (hw : w.type = ⟨l2, .none⟩) (proto : Byte)
    (h : entry ∈ w.entered) : entry ∈ (parseIpv4Payload data proto w).entered := by
  have hipv4 : w.has .ipv4 = false := by rw [Walk.has_eq hw rfl]; rfl
  have hipv6 : w.has .ipv6 = false := by rw [Walk.has_eq hw rfl]; rfl
  rw [parseIpv4Payload]
  split_ifs
  · exact entered_parseLast .icmpv4 h
  · rw [parseUdp, Walk.addProto_above_none (w := (w.enter .udp 0).advance 8) hw rfl rfl]
    exact List.mem_append_left _ h
  · exact entered_parseLast .tcp h
  · exact entered_parseLast .sctp h
  · rw [parseGre, hipv4, hipv6]
    simpa using h
  · exact h

lemma tableAgrees_parseIpv4 (h : w.TableAgrees) (hend : w.AtEnd) (hw : w.type = ⟨l2, .none⟩) :
    (parseIpv4 data w).TableAgrees ↔ HaveTypes (ipv4Headers data w.pos) := by
  have hentered : (Proto.ipv4, w.pos + 0) ∈ (w.passIpv4 data).entered :=
    List.mem_append_right _ List.mem_cons_self
  have hmissing {w' : Walk} (hw' : w'.type = ⟨l2, .none⟩)
      (hmem : (Proto.ipv4, w.pos + 0) ∈ w'.entered) : ¬ w'.TableAgrees :=
    not_tableAgrees .ipv4 (w.pos + 0) hmem (by rw [hw']; exact not_mem_name rfl (by decide))
  rw [parseIpv4, ipv4Headers, haveTypes_cons, Header.hasType]
  by_cases hfragment : ipv4IsFragment data w.pos = true
  · rw [if_pos hfragment, hfragment]
    refine iff_of_false (hmissing hw hentered) ?_
    simp
  have hudp : HaveTypes (if ipv4IsFragment data w.pos = false ∧ data (w.pos + 9) = UDP_IP_PROTO
      then [(.udp, w.pos + ipv4Ihl data w.pos * 4)] else []) := by
    split_ifs <;> simp [Header.hasType]
  rw [if_neg hfragment, addIpv4Options_eq (w := w.passIpv4 data) hw (ipv4Ihl_lt data w.pos),
    and_iff_left hudp, optionsUpper]
  by_cases hihl : 5 ≤ ipv4Ihl data w.pos
  · rw [if_pos hihl]
    have hword : (Fin.ofNat 16 (ipv4Ihl data w.pos - 5)).val = ipv4Ihl data w.pos - 5 :=
      Nat.mod_eq_of_lt (by have := ipv4Ihl_lt data w.pos; omega)
    refine iff_of_true ?_ (by simp [hfragment, hihl])
    refine tableAgrees_parseIpv4Payload data ?_ ?_
      (rfl : _ = PktType.mk l2 (.ipv4 (Fin.ofNat 16 (ipv4Ihl data w.pos - 5)) .none)) _
    · exact h.above hw rfl rfl (by rw [← hend]; rfl) rfl
    · have hpos : w.pos = nameLen l2.name := by
        rw [hend, hw, PktType.name, Upper.name, List.append_nil]
      show w.pos + ipv4Ihl data w.pos * 4 = nameLen (l2.name ++ [(_, 20 + _ * 4)])
      rw [nameLen_append, nameLen_singleton, hword, ← hpos]
      omega
  · rw [if_neg hihl]
    refine iff_of_false ?_ (by simp [hihl])
    set w' := ((w.passIpv4 data).setType ⟨l2, .none⟩).read (w.pos + 9)
    have hw' : w'.type = ⟨l2, .none⟩ := rfl
    exact hmissing (parseIpv4Payload_type_none data l2 _ hw')
      (entered_parseIpv4Payload data hw' _ hentered)

/-- A message of the neighbour discovery protocol, after the ICMPv6 header that the parser has not
gone past yet. -/
lemma tableAgrees_parseNdp (h : w.TableAgrees) (hend : w.pos + 4 = nameLen w.type.name)
    (hw : w.type = ⟨l2, .ipv6 (.icmpv6 .none)⟩) (message : NdpMessage) :
    (parseNdp data message w).TableAgrees := by
  rw [parseNdp, Walk.addProto_above (w := w.enter (.icmpv6Ndp message) 4) hw rfl rfl]
  set w' := (((w.enter (.icmpv6Ndp message) 4).setType
    ⟨l2, .ipv6 (.icmpv6 (.ndp message false))⟩).advance message.sizeof).read
      (w.pos + message.sizeof)
  have hname : (Upper.ipv6 (.icmpv6 (.ndp message false))).name =
      (Upper.ipv6 (.icmpv6 .none)).name ++ [(Proto.icmpv6Ndp message).entry] := rfl
  have hw' : w'.TableAgrees := h.above hw rfl hname (by rw [← hend]; rfl) rfl
  have hend' : w'.AtEnd := by
    have hsizeof : message.sizeof = 4 + message.len := by cases message <;> rfl
    show w.pos + message.sizeof =
      nameLen (l2.name ++ (Upper.ipv6 (.icmpv6 (.ndp message false))).name)
    rw [hname, ← List.append_assoc, nameLen_append, hsizeof, ← Nat.add_assoc, hend, hw]
    rfl
  show Walk.TableAgrees (if data (w.pos + message.sizeof) = message.lladr.optType then _ else w')
  split_ifs
  · have hadd : parseUpper (.ipv6 (.icmpv6 (.ndp message false))) (.of (.icmpv6NdpOpts message)) =
        some (.ipv6 (.icmpv6 (.ndp message true))) := by
      simp [parseUpper]
    exact tableAgrees_parseLast hw' hend' rfl hadd rfl rfl
  · exact hw'

lemma tableAgrees_parseIcmpv6 (h : w.TableAgrees) (hend : w.AtEnd)
    (hw : w.type = ⟨l2, .ipv6 .none⟩) :
    (parseIcmpv6 data w).TableAgrees ↔ data w.pos ≠ ICMPV6_TYPE_REDIRECT_MESSAGE := by
  rw [parseIcmpv6, Walk.addProto_above (w := w.enter .icmpv6 0) hw rfl rfl]
  set w' := ((w.enter .icmpv6 0).setType ⟨l2, .ipv6 (.icmpv6 .none)⟩).read w.pos
  have hw' : w'.type = ⟨l2, .ipv6 (.icmpv6 .none)⟩ := rfl
  have hagrees : w'.TableAgrees := h.above hw rfl rfl (by rw [← hend]; rfl) rfl
  have hend' : w'.pos + 4 = nameLen w'.type.name := by
    have hname : (PktType.mk l2 (.ipv6 (.icmpv6 .none))).name =
        (PktType.mk l2 (.ipv6 .none)).name ++ [Proto.icmpv6.entry] := by
      rw [PktType.name, PktType.name, List.append_assoc]
      rfl
    rw [hw', hname, nameLen_append, ← hw, ← hend]
    rfl
  show (parseIcmpv6Payload data (data w.pos) w').TableAgrees ↔ _
  rw [parseIcmpv6Payload]
  by_cases hredirect : data w.pos = ICMPV6_TYPE_REDIRECT_MESSAGE
  · refine iff_of_false ?_ (not_not_intro hredirect)
    rw [hredirect, if_neg (by decide), if_neg (by decide), if_neg (by decide), if_neg (by decide),
      if_pos rfl, Walk.addProto_above_none (w := w'.enter .icmpv6Redirect 4) rfl rfl rfl]
    refine not_tableAgrees .icmpv6Redirect (w'.pos + 4) ?_ ?_
    · exact List.mem_append_right _ List.mem_cons_self
    · exact not_mem_name rfl (by decide)
  · refine iff_of_true ?_ hredirect
    rw [if_neg hredirect]
    split_ifs
    · exact tableAgrees_parseNdp data hagrees hend' hw' .rtrSol
    · exact tableAgrees_parseNdp data hagrees hend' hw' .rtrAdv
    · exact tableAgrees_parseNdp data hagrees hend' hw' .neighSol
    · exact tableAgrees_parseNdp data hagrees hend' hw' .neighAdv
    · exact hagrees

lemma tableAgrees_parseIpv6 (h : w.TableAgrees) (hend : w.AtEnd) (hw : w.type = ⟨l2, .none⟩) :
    (parseIpv6 data w).TableAgrees ↔ HaveTypes (ipv6Headers data w.pos) := by
  rw [parseIpv6, Walk.addProto_above (w := w.enter .ipv6 0) hw rfl rfl]
  set w' := (((w.enter .ipv6 0).setType ⟨l2, .ipv6 .none⟩).advance 40).read (w.pos + 6)
  have hw' : w'.type = ⟨l2, .ipv6 .none⟩ := rfl
  have hagrees : w'.TableAgrees := h.above hw rfl rfl (by rw [← hend]; rfl) rfl
  have hend' : w'.AtEnd := by
    show w.pos + 40 = nameLen (l2.name ++ [Proto.ipv6.entry])
    rw [nameLen_append, hend, hw, PktType.name, Upper.name, List.append_nil]
    rfl
  show (parseIpv6Payload data (data (w.pos + 6)) w').TableAgrees ↔ _
  rw [ipv6Headers, haveTypes_cons, and_iff_right (by rfl), parseIpv6Payload]
  by_cases hicmp : data (w.pos + 6) = ICMPV6_IP_PROTO
  · rw [if_pos hicmp, if_pos hicmp, tableAgrees_parseIcmpv6 data hagrees hend' hw']
    simp [Header.hasType]
    rfl
  rw [if_neg hicmp, if_neg hicmp]
  refine iff_of_true ?_ (by split_ifs <;> simp [Header.hasType])
  split_ifs
  · exact tableAgrees_parseUdp_ipv6 data hagrees hend' hw'
  · exact tableAgrees_parseLast hagrees hend' hw' rfl rfl rfl
  · exact tableAgrees_parseLast hagrees hend' hw' rfl rfl rfl
  · have hipv4 : w'.has .ipv4 = false := by rw [Walk.has_eq hw' rfl]; rfl
    have hipv6 : w'.has .ipv6 = true := by rw [Walk.has_eq hw' rfl]; rfl
    rw [parseGre, hipv4, hipv6, if_neg (by decide : ¬ false = true), if_pos rfl]
    split_ifs
    · exact hagrees
    · exact tableAgrees_parseLast hagrees hend' hw' rfl rfl rfl
  · exact hagrees

/-! ## Labels -/

/-- All labels are one entry of the name, so further ones change nothing. -/
lemma tableAgrees_parseMplsLoop (n : ℕ) {k : Fin 32} (h : w.TableAgrees)
    (hw : w.type = ⟨l2, .mpls k⟩) : (parseMplsLoop data n w).TableAgrees := by
  induction n generalizing k w with
  | zero => exact h
  | succ n ih =>
      have hmem : Proto.mpls ∈ w.type.name.map Prod.fst := by
        rw [hw, PktType.name, List.map_append]
        exact List.mem_append_right _ List.mem_cons_self
      rw [parseMplsLoop]
      by_cases hk : k.val + 1 < 32
      · have hadd : parseUpper (.mpls k) (.of .mpls) = some (.mpls ⟨k.val + 1, hk⟩) := dif_pos hk
        rw [Walk.addProto_above (w := (w.enter .mpls 0).advance 4) hw hadd rfl]
        have hagrees : (((w.enter .mpls 0).advance 4).setType
            ⟨l2, .mpls ⟨k.val + 1, hk⟩⟩).TableAgrees := by
          refine h.again ?_ hmem rfl ?_
          · rw [hw]
            rfl
          · show _ = w.ethType
            rw [← h.2, hw]
            rfl
        split_ifs
        · exact hagrees
        · exact ih hagrees rfl
      · have hadd : parseUpper (.mpls k) (.of .mpls) = none := dif_neg hk
        rw [Walk.addProto_above_none (w := (w.enter .mpls 0).advance 4) hw hadd rfl]
        exact h.again rfl hmem rfl h.2

lemma tableAgrees_parseMpls (h : w.TableAgrees) (hend : w.AtEnd) (hw : w.type = ⟨l2, .none⟩) :
    (parseMpls data w).TableAgrees := by
  rw [parseMpls, parseMplsLoop, Walk.addProto_above (w := (w.enter .mpls 0).advance 4) hw rfl rfl]
  have hagrees : (((w.enter .mpls 0).advance 4).setType ⟨l2, .mpls 0⟩).TableAgrees :=
    h.above hw rfl rfl (by rw [← hend]; rfl) rfl
  split_ifs
  · exact hagrees
  · exact tableAgrees_parseMplsLoop data 32 hagrees rfl

lemma haveTypes_labels (n pos : ℕ) : HaveTypes (labels data n pos) := by
  induction n generalizing pos with
  | zero => exact haveTypes_nil
  | succ n ih =>
      rw [labels, haveTypes_cons]
      split_ifs
      · exact ⟨rfl, haveTypes_nil⟩
      · exact ⟨rfl, ih (pos + 4)⟩

/-! ## From the ethertype on -/

lemma tableAgrees_parsePppoe (h : w.TableAgrees) (hend : w.AtEnd) (hw : w.type = ⟨l2, .none⟩)
    (eth_type : BitVec 16) : (parsePppoe eth_type w).TableAgrees := by
  rw [parsePppoe, Walk.addProto_above (w := w.enter .pppoe 0) hw rfl rfl]
  have hagrees : ((w.enter .pppoe 0).setType ⟨l2, .pppoe⟩).TableAgrees :=
    h.above hw rfl rfl (by rw [← hend]; rfl) rfl
  split_ifs
  · exact hagrees
  · refine tableAgrees_parseLast (w := ((w.enter .pppoe 0).setType ⟨l2, .pppoe⟩).advance 6)
      hagrees ?_ rfl (rfl : _ = some Upper.ppp) rfl rfl
    show w.pos + 6 = nameLen (l2.name ++ [Proto.pppoe.entry])
    rw [nameLen_append, hend, hw, PktType.name, Upper.name, List.append_nil]
    rfl
  · exact hagrees

/-- There is a type with an I-TAG after no tag or one tag of an Ethernet II frame. -/
lemma tableAgrees_parsePbbIsid {llc : Bool} {k : Fin 3} (h : w.TableAgrees) (hend : w.AtEnd)
    (hw : w.type = ⟨.plain llc k, .none⟩) :
    (parsePbbIsid w).TableAgrees ↔ (Header.isid (.plain llc k)).hasType = true := by
  have hmissing (hnone : (L2.plain llc k).parseIsid = none) :
      ¬ (parsePbbIsid w).TableAgrees := by
    have hadd : parseTransitions (w.enter .isid 0).type (.of .isid) = none := by
      show parseTransitions w.type _ = _
      rw [hw, parseTransitions, if_pos rfl, hnone]
      rfl
    rw [parsePbbIsid, parseLast, Walk.addProto_of_none _ hadd]
    refine not_tableAgrees .isid (w.pos + 0) ?_ ?_
    · exact List.mem_append_right _ List.mem_cons_self
    · show Proto.isid ∉ w.type.name.map Prod.fst
      rw [hw]
      cases llc <;> simp [PktType.name, L2.name, Upper.name]
  have hadded (tagged : Bool) (hsome : (L2.plain llc k).parseIsid = some (.isid tagged))
      (hname : (L2.isid tagged).name = (L2.plain llc k).name ++ [Proto.isid.entry])
      (heth : ethTypeOffset ⟨.isid tagged, .none⟩ = ethTypeOffset ⟨.plain llc k, .none⟩) :
      (parsePbbIsid w).TableAgrees := by
    have hadd : parseTransitions (w.enter .isid 0).type (.of .isid) =
        some ⟨.isid tagged, .none⟩ := by
      show parseTransitions w.type _ = _
      rw [hw, parseTransitions, if_pos rfl, hsome]
      rfl
    rw [parsePbbIsid, parseLast, Walk.addProto_of_some _ hadd]
    refine h.add (n := 4) ?_ (by rw [← hend]; rfl) ?_
    · rw [hw]
      show (L2.isid tagged).name ++ [] = ((L2.plain llc k).name ++ []) ++ _
      rw [List.append_nil, List.append_nil, hname]
      rfl
    · show _ = w.ethType
      rw [← h.2, hw, ← heth]
      rfl
  rw [Header.hasType]
  cases llc with
  | true => exact iff_of_false (hmissing rfl) (by simp [L2.parseIsid])
  | false =>
      obtain rfl | rfl | rfl : k = 0 ∨ k = 1 ∨ k = 2 := by omega
      · exact iff_of_true (hadded false rfl rfl rfl) rfl
      · exact iff_of_true (hadded true rfl rfl rfl) rfl
      · exact iff_of_false (hmissing rfl) (by decide)

lemma tableAgrees_parseEtherType {llc : Bool} {k : Fin 3} (h : w.TableAgrees) (hend : w.AtEnd)
    (hw : w.type = ⟨.plain llc k, .none⟩) (eth_type : BitVec 16) :
    (parseEtherType data eth_type w).TableAgrees ↔
      HaveTypes (etherTypeHeaders data (.plain llc k) eth_type w.pos) := by
  rw [parseEtherType, etherTypeHeaders]
  by_cases hitag : eth_type = VLAN_ITAG_ETHER_TYPE
  · rw [if_pos hitag, if_pos hitag, haveTypes_cons, and_iff_left haveTypes_nil]
    exact tableAgrees_parsePbbIsid h hend hw
  rw [if_neg hitag, if_neg hitag]
  by_cases hmpls : eth_type = ETH_TYPE_MPLS_UNICAST ∨ eth_type = ETH_TYPE_MPLS_MULTICAST
  · rw [if_pos hmpls, if_pos hmpls]
    exact iff_of_true (tableAgrees_parseMpls data h hend hw) (haveTypes_labels data 33 w.pos)
  rw [if_neg hmpls, if_neg hmpls]
  by_cases hpppoe : eth_type = ETH_TYPE_PPPOE_DISCOVERY ∨ eth_type = ETH_TYPE_PPPOE_SESSION
  · rw [if_pos hpppoe, if_pos hpppoe]
    exact iff_of_true (tableAgrees_parsePppoe h hend hw eth_type) (by simp [Header.hasType])
  rw [if_neg hpppoe, if_neg hpppoe]
  by_cases harp : eth_type = ETH_TYPE_ARP
  · have hipv4 : eth_type ≠ ETH_TYPE_IPV4 := by rw [harp]; decide
    have hipv6 : eth_type ≠ ETH_TYPE_IPV6 := by rw [harp]; decide
    rw [if_pos harp, if_neg hipv4, if_neg hipv6]
    exact iff_of_true (tableAgrees_parseLast h hend hw rfl rfl rfl) haveTypes_nil
  rw [if_neg harp]
  split_ifs
  · exact tableAgrees_parseIpv4 data h hend hw
  · exact tableAgrees_parseIpv6 data h hend hw
  · exact iff_of_true h haveTypes_nil

lemma nameLen_plain (llc : Bool) (k : Fin 3) :
    nameLen (L2.plain llc k).name = (if llc then 22 else 14) + 4 * k.val := by
  revert llc k
  decide

/-- After an ethertype with `k` tags before it. -/
lemma tableAgrees_parseVlanLoop {n m : ℕ} {k : Fin 3} {llc : Bool} (h : w.TableAgrees)
    (hend : w.AtEnd) (eth_type : BitVec 16) (hw : w.type = ⟨.plain llc k, .none⟩)
    (hk : k.val + n = 2) (hm : n < m) :
    (if IsVlanTag eth_type then parseVlanLoop data m w
      else parseEtherType data eth_type w).TableAgrees ↔
      HaveTypes (taggedHeaders data llc n eth_type w.pos) := by
  induction n generalizing m k w eth_type with
  | zero =>
      obtain ⟨m, rfl⟩ := Nat.exists_eq_add_of_lt hm
      obtain rfl : k = 2 := Fin.ext hk
      rw [taggedHeaders]
      split_ifs with htag
      · have hadd : parseTransitions
            (((w.enter .vlan 0).advance 4).read16 (w.pos + 2)).type (.of .vlan) = none := by
          show parseTransitions w.type _ = _
          rw [hw]
          rfl
        have hmem : Proto.vlan ∈ w.type.name.map Prod.fst := by
          rw [hw]
          cases llc <;> decide
        rw [parseVlanLoop, Walk.addProto_of_none _ hadd]
        exact iff_of_true (h.again rfl hmem rfl h.2) (by simp [Header.hasType])
      · exact tableAgrees_parseEtherType data h hend hw eth_type
  | succ n ih =>
      obtain ⟨m, rfl⟩ := Nat.exists_eq_add_of_lt hm
      rw [taggedHeaders]
      split_ifs with htag
      · have hk' : k.val + 1 < 3 := by omega
        have hadd : parseTransitions
            (((w.enter .vlan 0).advance 4).read16 (w.pos + 2)).type (.of .vlan) =
              some ⟨.plain llc ⟨k.val + 1, hk'⟩, .none⟩ := by
          show parseTransitions w.type _ = _
          rw [hw, parseTransitions, if_pos rfl, L2.parseVlan, dif_pos hk']
          rfl
        rw [parseVlanLoop, Walk.addProto_of_some _ hadd, haveTypes_cons, and_iff_right (by rfl)]
        set w' := ((((w.enter .vlan 0).advance 4).read16 (w.pos + 2)).setType
          ⟨.plain llc ⟨k.val + 1, hk'⟩, .none⟩).switchOn (w.pos + 2)
        have hpos : w.pos = (if llc then 22 else 14) + 4 * k.val := by
          rw [hend, hw, PktType.name, Upper.name, List.append_nil, nameLen_plain]
        have hagrees : w'.TableAgrees := by
          refine h.add (n := 4) ?_ (by rw [← hend]; rfl) ?_
          · rw [hw]
            show _ :: List.replicate (k.val + 1) _ ++ [] = (_ :: List.replicate k.val _ ++ []) ++ _
            rw [List.append_nil, List.append_nil, List.replicate_succ', List.cons_append]
            rfl
          · show (if llc then 22 else 14) + 4 * (k.val + 1) - 2 = w.pos + 2
            rw [hpos]
            omega
        have hend' : w'.AtEnd := by
          show w.pos + 4 = nameLen ((L2.plain llc ⟨k.val + 1, hk'⟩).name ++ [])
          rw [List.append_nil, nameLen_plain, hpos]
          exact Nat.add_assoc _ (4 * k.val) 4
        refine ih (m := n + 1 + m) (k := ⟨k.val + 1, hk'⟩) hagrees hend' _ rfl ?_ (by omega)
        show k.val + 1 + n = 2
        omega
      · have htags : Fin.ofNat 3 (1 - n) = k := by
          refine Fin.ext ?_
          rw [Fin.val_ofNat]
          omega
        rw [htags]
        exact tableAgrees_parseEtherType data h hend hw eth_type

lemma passEthernet_agrees (len : ℕ) :
    ((Walk.start len).passEthernet data).TableAgrees ∧
      ((Walk.start len).passEthernet data).AtEnd := by
  refine ⟨⟨fun proto => ?_, ?_⟩, ?_⟩
  · show offsetIn proto 0 ((L2.plain (isLlcFrame data) 0).name ++ []) =
      List.lookup proto [(_, 0 + 0)]
    cases isLlcFrame data with
    | false => exact offsetIn_singleton proto .ethernet 0 14
    | true => exact offsetIn_singleton proto .eth8023 0 22
  · show _ = etherTypeOffset data
    rw [etherTypeOffset]
    show (if isLlcFrame data then 22 else 14) + 4 * 0 - 2 = _
    split_ifs <;> rfl
  · show 0 + etherHdrLen data = nameLen ((L2.plain (isLlcFrame data) 0).name ++ [])
    rw [List.append_nil, nameLen_plain, etherHdrLen]
    simp

/-- **The table agrees with the parser if and only if there are types for all headers that the frame
announces.** -/
theorem tableAgrees_classifyPacket_iff (len : ℕ) :
    (classifyPacket data len).TableAgrees ↔ ∀ h ∈ announced data, h.1.hasType = true := by
  obtain ⟨hagrees, hend⟩ := passEthernet_agrees data len
  have hpos : ((Walk.start len).passEthernet data).pos = etherHdrLen data := Nat.zero_add _
  show _ ↔ HaveTypes (announced data)
  rw [classifyPacket, parseEthernet, parseVlan, announced, haveTypes_cons, and_iff_right (by rfl)]
  rw [tableAgrees_parseVlanLoop data (n := 2) (m := 3) (k := 0) hagrees hend
    (be16 data (etherTypeOffset data)) rfl rfl (by decide), hpos]

/-- A frame with an IPv4 header that has the flag "more fragments". -/
def fragmentFrame (i : ℕ) : Byte :=
  if i = 12 then 0x08 else if i = 14 then 0x45 else if i = 20 then 0x20 else 0

/-- The parser stays within the frame, and has entered the IPv4 header, which is not in the type. -/
theorem not_tableAgrees_fragmentFrame :
    (classifyPacket fragmentFrame 60).StaysIn 60 ∧
      ¬ (classifyPacket fragmentFrame 60).TableAgrees := by
  refine ⟨⟨by decide, by decide⟩, fun h => ?_⟩
  exact absurd (h.1 .ipv4) (by decide)

end Xdpd.Classifier
