import DhcpRelay.V4.Option82

/-!
# DhcpRelay.V4.Option82Laws

**The laws between the operations on Option 82.** `strip` undoes `insert` and gives back what
was inserted, and both refuse or do nothing where there is nothing to do.

The comparison of the echo is on sub-options in the form that `relay_info_to_sub_opt` gives
them. That form determines each kind of sub-option but one: of the Relay Agent Flags it keeps
nothing. So the comparison is faithful to the bytes up to these flags.
-/

namespace DhcpRelay.V4

open DhcpRelay.Library

namespace Option82

variable {msg : Message} {circuitId remoteId : Option Bytes}

/-! ### Insert and strip -/

/-- Without ids, or with an Option 82 already, nothing happens. -/
theorem insert_of_not (h : ¬ ((circuitId.isSome ∨ remoteId.isSome) ∧ msg.option82 = none)) :
    ∃ text, insert msg circuitId remoteId = (.error (.config text), msg) :=
  insert_refused (refused_of_not h)

/-- `insert` succeeds exactly with an id to insert and no Option 82 yet. -/
theorem insert_ok_iff : (insert msg circuitId remoteId).1 = .ok ()
    ↔ (circuitId.isSome ∨ remoteId.isSome) ∧ msg.option82 = none := by
  constructor
  · intro hok
    by_contra h
    obtain ⟨text, hrun⟩ := insert_of_not h
    simp [hrun] at hok
  · intro h
    rw [insert_of_fresh h.1 h.2]

/-- What is refused is left as it is. -/
theorem insert_error {e : RelayError} (h : (insert msg circuitId remoteId).1 = .error e) :
    (insert msg circuitId remoteId).2 = msg := by
  by_cases hok : (circuitId.isSome ∨ remoteId.isSome) ∧ msg.option82 = none
  · simp [insert_ok_iff.mpr hok] at h
  · obtain ⟨text, hrun⟩ := insert_of_not hok
    rw [hrun]

/-- A new Option 82 that is removed again leaves the message as it was. -/
theorem withoutOption82_withOption82 (h : msg.option82 = none) (info : RelayAgentInformation) :
    (msg.withOption82 info).withoutOption82 = msg := by
  have hget : msg.opts.get? (DhcpOption.relayAgentInformation info).code = none := by
    show msg.opts.get? OptionCode.relayAgentInformation = none
    rw [Message.get?_option82, h, Option.map_none]
  have herase : (msg.opts.insert (.relayAgentInformation info)).erase
      OptionCode.relayAgentInformation = msg.opts := KeyedMap.erase_insert_of_none hget
  rw [Message.withOption82, Message.withoutOption82, herase]

theorem strip_of_some {info : RelayAgentInformation} (h : msg.option82 = some info) :
    strip msg = (some (subOpts info), msg.withoutOption82) := by
  have hfst : (strip msg).1 = some (subOpts info) := by
    rw [strip, Message.get?_option82, h]
    rfl
  exact Prod.ext hfst (strip_snd msg)

theorem strip_of_none (h : msg.option82 = none) : strip msg = (none, msg) := by
  rw [strip, Message.get?_option82, h]
  rfl

/-- The sub-options that `insert` puts into a message, in code order. -/
def inserted (circuitId remoteId : Option Bytes) : List SubOption :=
  (circuitId.map (SubOption.mk 1)).toList ++ (remoteId.map (SubOption.mk 2)).toList

/-- What was inserted is stripped again. -/
theorem strip_insert (h : (insert msg circuitId remoteId).1 = .ok ()) :
    strip (insert msg circuitId remoteId).2 = (some (inserted circuitId remoteId), msg) := by
  obtain ⟨hids, hfresh⟩ := insert_ok_iff.mp h
  rw [insert_of_fresh hids hfresh, strip_of_some (Message.option82_withOption82 _ _),
    withoutOption82_withOption82 hfresh, subOpts_agentInfo, inserted]

/-- A message is given no second Option 82. -/
theorem insert_insert (h : (insert msg circuitId remoteId).1 = .ok ())
    (circuitId' remoteId' : Option Bytes) :
    ∃ e, (insert (insert msg circuitId remoteId).2 circuitId' remoteId').1 = .error e := by
  obtain ⟨hids, hfresh⟩ := insert_ok_iff.mp h
  rw [insert_of_fresh hids hfresh]
  have hpresent : (msg.withOption82 (agentInfo circuitId remoteId)).option82.isSome := by
    rw [Message.option82_withOption82]
    rfl
  obtain ⟨text, hrun⟩ : ∃ text, insert (msg.withOption82 (agentInfo circuitId remoteId))
      circuitId' remoteId' = (.error (.config text), _) := insert_refused (.inr hpresent)
  exact ⟨.config text, congrArg Prod.fst hrun⟩

/-- **`insert` and `strip` are inverse**, and a refused insert changes nothing. -/
theorem insert_strip_laws (msg : Message) (circuitId remoteId : Option Bytes) :
    ((insert msg circuitId remoteId).1 = .ok ()
        ↔ (circuitId.isSome ∨ remoteId.isSome) ∧ msg.option82 = none)
      ∧ (∀ e, (insert msg circuitId remoteId).1 = .error e →
          (insert msg circuitId remoteId).2 = msg)
      ∧ ((insert msg circuitId remoteId).1 = .ok () →
          strip (insert msg circuitId remoteId).2 = (some (inserted circuitId remoteId), msg)
            ∧ validateEcho (inserted circuitId remoteId) (inserted circuitId remoteId) = true
            ∧ ∀ circuitId' remoteId', ∃ e,
              (insert (insert msg circuitId remoteId).2 circuitId' remoteId').1 = .error e)
      ∧ (msg.option82.isSome →
          (strip msg).2.option82 = none ∧ msg.AgreesOutside82 (strip msg).2
            ∧ strip (strip msg).2 = (none, (strip msg).2)) := by
  refine ⟨insert_ok_iff, fun e => insert_error, fun hok => ?_, fun _ => ?_⟩
  · exact ⟨strip_insert hok, validateEcho_iff.mpr rfl, insert_insert hok⟩
  · rw [strip_snd]
    exact ⟨Message.option82_withoutOption82 msg, msg.agrees_withoutOption82,
      strip_of_none (Message.option82_withoutOption82 msg)⟩

/-! ### The echo -/

@[simp] theorem relayInfoToSubOpt_code (info : RelayInfo) :
    (relayInfoToSubOpt info).code = info.code := by
  cases info <;> rfl

theorem toBe32_injective {m n : UInt32} (h : toBe32 m.toNat = toBe32 n.toNat) : m = n := by
  have hm := m.toNat_lt
  have hn := n.toNat_lt
  apply UInt32.toNat_inj.mp
  simp only [toBe32, toBe16, List.cons_append, List.nil_append, List.cons.injEq, and_true,
    ← UInt8.toNat_inj, UInt8.toNat_ofNat'] at h
  omega

theorem octets_injective {ip ip' : Ipv4Addr} (h : ip.octets = ip'.octets) : ip = ip' := by
  obtain ⟨a, b, c, d⟩ := ip
  obtain ⟨a', b', c', d'⟩ := ip'
  simpa [Ipv4Addr.octets] using h

/-- A sub-option under a code that has a kind of its own is of that kind. -/
theorem unknown_code_ne (code : UnknownRelayCode) {c : RelayCode} (h : c ∈ RelayCode.decoded) :
    c ≠ code.val := by
  rintro rfl
  exact code.property h

/-- **The form of a sub-option determines it**, unless it is of the Relay Agent Flags. -/
theorem relayInfoToSubOpt_eq {a b : RelayInfo} (h : relayInfoToSubOpt a = relayInfoToSubOpt b) :
    a = b ∨ ∃ x y, a = .relayAgentFlags x ∧ b = .relayAgentFlags y := by
  have hcode : a.code = b.code := by
    rw [← relayInfoToSubOpt_code, h, relayInfoToSubOpt_code]
  have hdata : (relayInfoToSubOpt a).data = (relayInfoToSubOpt b).data := by rw [h]
  cases a <;> cases b
  case agentCircuitId.agentCircuitId x y => exact .inl (congrArg _ hdata)
  case agentRemoteId.agentRemoteId x y => exact .inl (congrArg _ hdata)
  case docsisDeviceClass.docsisDeviceClass x y => exact .inl (congrArg _ (toBe32_injective hdata))
  case linkSelection.linkSelection x y => exact .inl (congrArg _ (octets_injective hdata))
  case subscriberId.subscriberId x y => exact .inl (congrArg _ hdata)
  case relayAgentFlags.relayAgentFlags x y => exact .inr ⟨x, y, rfl, rfl⟩
  case serverIdentifierOverride.serverIdentifierOverride x y =>
    exact .inl (congrArg _ (octets_injective hdata))
  case unknown.unknown code x code' y =>
    obtain rfl : code = code' := Subtype.ext hcode
    exact .inl (congrArg _ hdata)
  -- the other pairs have different codes
  all_goals simp only [RelayInfo.code] at hcode
  all_goals first
    | exact absurd hcode (by decide)
    | exact absurd hcode (unknown_code_ne _ (by decide))
    | exact absurd hcode.symm (unknown_code_ne _ (by decide))

/-- The two have the same sub-options, but for the value of the Relay Agent Flags where they
both have some. -/
structure AgreeUpToFlags (I J : RelayAgentInformation) : Prop where
  others : ∀ code, code ≠ RelayCode.relayAgentFlags → I.get? code = J.get? code
  flags : (I.get? RelayCode.relayAgentFlags).isSome = (J.get? RelayCode.relayAgentFlags).isSome

variable {I J : RelayAgentInformation}

/-- What is found under the code of the flags are flags. -/
theorem flags_of_get? {info : RelayInfo} (h : I.get? RelayCode.relayAgentFlags = some info) :
    ∃ x, info = .relayAgentFlags x := by
  have hcode : info.code = RelayCode.relayAgentFlags := KeyedMap.key_of_get? h
  cases info
  case relayAgentFlags x => exact ⟨x, rfl⟩
  case unknown code data => exact absurd hcode.symm (unknown_code_ne code (by decide))
  all_goals
    simp only [RelayInfo.code] at hcode
    exact absurd hcode (by decide)

/-- Under another code, the form that is found determines what is found. -/
theorem get?_eq_of_map_eq {code : RelayCode} (hcode : code ≠ RelayCode.relayAgentFlags)
    (h : (I.get? code).map relayInfoToSubOpt = (J.get? code).map relayInfoToSubOpt) :
    I.get? code = J.get? code := by
  cases hI : I.get? code with
  | none =>
      rw [hI, Option.map_none, eq_comm, Option.map_eq_none_iff] at h
      exact h.symm
  | some a =>
      rw [hI, Option.map_some, eq_comm, Option.map_eq_some_iff] at h
      obtain ⟨b, hJ, hsame⟩ := h
      rcases relayInfoToSubOpt_eq hsame with rfl | ⟨x, y, -, rfl⟩
      · exact hJ.symm
      · exact absurd (KeyedMap.key_of_get? hI) (Ne.symm hcode)

/-- Under the code of the flags, all that is found has the same form. -/
theorem map_flags_eq (h : (I.get? RelayCode.relayAgentFlags).isSome
      = (J.get? RelayCode.relayAgentFlags).isSome) :
    (I.get? RelayCode.relayAgentFlags).map relayInfoToSubOpt
      = (J.get? RelayCode.relayAgentFlags).map relayInfoToSubOpt := by
  cases hI : I.get? RelayCode.relayAgentFlags with
  | none =>
      rw [hI, Option.isSome_none, eq_comm, Option.isSome_eq_false_iff, Option.isNone_iff_eq_none]
        at h
      rw [h]
  | some a =>
      rw [hI, Option.isSome_some, eq_comm, Option.isSome_iff_exists] at h
      obtain ⟨b, hJ⟩ := h
      obtain ⟨x, rfl⟩ := flags_of_get? hI
      obtain ⟨y, rfl⟩ := flags_of_get? hJ
      rw [hJ]
      rfl

/-- **What the comparison sees**: everything but the value of the flags. -/
theorem subOpts_eq_iff : subOpts I = subOpts J ↔ AgreeUpToFlags I J := by
  rw [subOpts, subOpts, KeyedMap.map_toList_eq_iff relayInfoToSubOpt_code]
  refine ⟨fun h => ⟨fun code hcode => get?_eq_of_map_eq hcode (h code), ?_⟩, fun h code => ?_⟩
  · rw [← Option.isSome_map (f := relayInfoToSubOpt), h, Option.isSome_map]
  · by_cases hcode : code = RelayCode.relayAgentFlags
    · rw [hcode]
      exact map_flags_eq h.flags
    · rw [h.others code hcode]

/-- The comparison tells the two apart if they are not the same. -/
structure EchoFaithful (I J : RelayAgentInformation) : Prop where
  subOpts : subOpts I = subOpts J → I = J
  echo : validateEcho (Option82.subOpts I) (Option82.subOpts J) = true → I = J

/-- **The echo comparison is faithful to the bytes exactly for contents that do not differ in
the value of the flags alone.** -/
theorem echoFaithful_iff : EchoFaithful I J
    ↔ (AgreeUpToFlags I J →
        I.get? RelayCode.relayAgentFlags = J.get? RelayCode.relayAgentFlags) := by
  constructor
  · intro h hagree
    rw [h.subOpts (subOpts_eq_iff.mpr hagree)]
  · intro h
    have hsame : subOpts I = subOpts J → I = J := by
      intro heq
      have hagree := subOpts_eq_iff.mp heq
      apply KeyedMap.ext_get?
      intro code
      by_cases hcode : code = RelayCode.relayAgentFlags
      · rw [hcode, h hagree]
      · exact hagree.others code hcode
    exact ⟨hsame, fun hecho => hsame (validateEcho_iff.mp hecho)⟩

/-- Relay Agent Flags, and nothing else. -/
def sampleFlags (flags : UInt8) : RelayAgentInformation :=
  KeyedMap.empty.insert (.relayAgentFlags flags)

/-- The answer with another flag passes for an echo. -/
theorem sampleFlags_confused :
    validateEcho (subOpts (sampleFlags 0x80)) (subOpts (sampleFlags 0)) = true
      ∧ sampleFlags 0x80 ≠ sampleFlags 0
      ∧ ¬ EchoFaithful (sampleFlags 0x80) (sampleFlags 0) := by
  have hne : sampleFlags 0x80 ≠ sampleFlags 0 := by decide
  exact ⟨by decide, hne, fun h => hne (h.echo (by decide))⟩

end Option82

end DhcpRelay.V4
