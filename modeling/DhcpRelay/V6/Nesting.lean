import DhcpRelay.Library.Runs
import DhcpRelay.V6.RelayFwd

/-!
# DhcpRelay.V6.Nesting

Relay-replies inside Relay-replies. `decapsulate` **accepts exactly the chains of
well-formed layers**, whatever stands behind the relay-message option of a layer, and
every message that was wrapped level by level comes out again.

The source indexes and slices its input. `decapsulate?` is the same program with these
accesses checked, `none` where the source would panic; it always has a result, and that
of `decapsulate`.
-/

namespace DhcpRelay.V6.RelayFwd

open DhcpRelay.Library

/-! ### Checked accesses -/

/-- `&bytes[start..stop]`. -/
def slice? (bytes : Bytes) (start stop : Nat) : Option Bytes :=
  if start ≤ stop ∧ stop ≤ bytes.length then some ((bytes.take stop).drop start) else none

/-- `a - b` on `usize`. -/
def sub? (a b : Nat) : Option Nat := if b ≤ a then some (a - b) else none

/-- The loop of `extract_relay_msg`, with every access checked. -/
def extractLoop? (options : Bytes) (pos : Nat) : Option (RelayResult Bytes) :=
  if _h : pos + optionTlvHdr ≤ options.length then do
    let code := UInt16.ofNat (be16 (← options[pos]?) (← options[pos + 1]?))
    let len := be16 (← options[pos + 2]?) (← options[pos + 3]?)
    if pos + optionTlvHdr + len > options.length then
      let remaining ← sub? options.length (pos + optionTlvHdr)
      return .error (.parse
        s!"truncated option: code {code} length {len} exceeds remaining {remaining} bytes")
    else if code = optionRelayMsg then
      return .ok (← slice? options (pos + optionTlvHdr) (pos + optionTlvHdr + len))
    else extractLoop? options (pos + optionTlvHdr + len)
  else some (.error (.parse "no relay-message option (9) found in relay reply"))
termination_by options.length - pos
decreasing_by
  simp only [optionTlvHdr] at _h ⊢
  omega

/-- **The scan stays in range**, and runs as `extractLoop` does. -/
theorem extractLoop?_eq (options : Bytes) (pos : Nat) :
    extractLoop? options pos = some (extractLoop options pos) := by
  induction hn : options.length - pos using Nat.strong_induction_on generalizing pos with
  | _ n ih =>
      rw [extractLoop?, extractLoop]
      split
      · next h =>
          have hhdr : pos + 4 ≤ options.length := h
          have hsub : sub? options.length (pos + optionTlvHdr)
              = some (options.length - (pos + optionTlvHdr)) := if_pos h
          simp only [List.getElem?_eq_getElem (show pos < options.length by omega),
            List.getElem?_eq_getElem (show pos + 1 < options.length by omega),
            List.getElem?_eq_getElem (show pos + 2 < options.length by omega),
            List.getElem?_eq_getElem (show pos + 3 < options.length by omega),
            Option.bind_eq_bind, Option.bind_some, hsub, Option.pure_def]
          split
          · rfl
          · next hfits =>
              split
              · rw [slice?, if_pos ⟨Nat.le_add_right _ _, Nat.le_of_not_lt hfits⟩]
                simp [List.drop_take]
              · refine ih _ ?_ _ rfl
                simp only [optionTlvHdr]
                omega
      · rfl

/-- A scan that fails ends in a parse error. -/
theorem extractLoop_error {options : Bytes} {pos : Nat} {e : RelayError}
    (h : extractLoop options pos = .error e) : ∃ text, e = .parse text := by
  fun_induction extractLoop options pos with
  | case1 => exact ⟨_, (Except.error.inj h).symm⟩
  | case2 => simp at h
  | case3 pos hhdr hlong code len pos' hfits hcode ih => exact ih h
  | case4 => exact ⟨_, (Except.error.inj h).symm⟩

/-- Decapsulation, with every access checked. -/
def decapsulate? (relayReply : Bytes) : Option (RelayResult Bytes) :=
  if relayReply.length < relayHdrLen then
    some (.error (.parse
      s!"relay message too short: {relayReply.length} bytes (minimum {relayHdrLen})"))
  else
    match relayReply[0]? with
    | none => none
    | some msgType =>
      if msgType ≠ relayRepl then
        some (.error (.parse s!"expected RELAY_REPL (13), got msg_type {msgType}"))
      else
        match _hoptions : slice? relayReply relayHdrLen relayReply.length with
        | none => none
        | some options =>
          match _hinner : extractLoop? options 0 with
          | none => none
          | some (.error e) => some (.error e)
          | some (.ok inner) =>
            if inner.isEmpty then some (.ok inner)
            else
              match inner[0]? with
              | none => none
              | some first =>
                if first = relayRepl then decapsulate? inner else some (.ok inner)
termination_by relayReply.length
decreasing_by
  unfold slice? at _hoptions
  split at _hoptions
  · obtain rfl := Option.some.inj _hoptions
    rw [extractLoop?_eq] at _hinner
    have hlt := length_extractRelayMsg (Option.some.inj _hinner)
    rw [List.length_drop, List.length_take] at hlt
    omega
  · simp at _hoptions

/-! ### Layers -/

/-- Where there is no layer behind a complete header of its type, the scan has failed. -/
theorem extractRelayMsg_of_no_layer {reply : Bytes} (h : ∀ inner, ¬ Layer reply inner)
    (hheader : relayHdrLen ≤ reply.length) (hpos : 0 < reply.length)
    (htype : ¬ reply[0] ≠ relayRepl) :
    ∃ text, extractRelayMsg (reply.drop relayHdrLen) = .error (.parse text) := by
  have hhead : reply.head? = some relayRepl := by
    rw [List.head?_eq_getElem?, List.getElem?_eq_getElem hpos, not_not.mp htype]
  cases hread : extractRelayMsg (reply.drop relayHdrLen) with
  | ok inner => exact absurd ⟨hheader, hhead, extractRelayMsg_ok_iff.mp hread⟩ (h inner)
  | error e =>
      obtain ⟨text, rfl⟩ := extractLoop_error hread
      exact ⟨text, rfl⟩

/-- Where there is no layer, decapsulation ends in a parse error. -/
theorem decapsulate_of_no_layer {reply : Bytes} (h : ∀ inner, ¬ Layer reply inner) :
    ∃ text, decapsulate reply = .error (.parse text) := by
  rw [decapsulate]
  split
  · exact ⟨_, rfl⟩
  · next hshort =>
      have hheader : relayHdrLen ≤ reply.length := Nat.le_of_not_lt hshort
      have hpos : 0 < reply.length := Nat.lt_of_lt_of_le (by decide) hheader
      dsimp only
      split
      · exact ⟨_, rfl⟩
      · next htype =>
          obtain ⟨text, hread⟩ := extractRelayMsg_of_no_layer h hheader hpos htype
          split
          · next e herr =>
              obtain rfl : _ = e := Except.error.inj (hread.symm.trans herr)
              exact ⟨text, rfl⟩
          · next inner hok => simp [hread] at hok

/-- A layer is thirty-eight bytes longer than what is in it. -/
theorem Layer.length_le {reply inner : Bytes} (h : Layer reply inner) :
    inner.length + 38 ≤ reply.length := by
  have hheader : 34 ≤ reply.length := h.header
  have hlength : inner.length + 4 ≤ reply.length - 34 :=
    List.length_drop (i := relayHdrLen) ▸ h.relayMsg.length_le
  omega

/-- **Induction on the layers**, from the innermost: a reply is no layer, or it is one
around a shorter reply. -/
theorem layer_induction {motive : Bytes → Prop}
    (stop : ∀ reply, (∀ inner, ¬ Layer reply inner) → motive reply)
    (layer : ∀ reply inner, Layer reply inner → motive inner → motive reply) (reply : Bytes) :
    motive reply := by
  induction hn : reply.length using Nat.strong_induction_on generalizing reply with
  | _ length ih =>
      by_cases hexists : ∃ inner, Layer reply inner
      · obtain ⟨inner, hlayer⟩ := hexists
        have hshorter : inner.length < length := by
          have hlength := hlayer.length_le
          omega
        exact layer reply inner hlayer (ih inner.length hshorter inner rfl)
      · exact stop reply (not_exists.mp hexists)

/-- What is in a layer stands there in one piece. -/
theorem Layer.isInfix {reply inner : Bytes} (h : Layer reply inner) : inner <:+: reply := by
  obtain ⟨before, item, rest, hbytes, -, -, rfl⟩ := Tlv.finds_iff.mp h.relayMsg
  have hitem : item.value <:+: item.toBytes ++ rest :=
    ⟨toBe16 item.code.toNat ++ toBe16 item.value.length, rest, rfl⟩
  have hoptions : item.value <:+: reply.drop relayHdrLen := by
    rw [hbytes]
    exact hitem.trans (List.suffix_append _ _).isInfix
  exact hoptions.trans (List.drop_suffix relayHdrLen reply).isInfix

/-- Behind a complete header there are the options. -/
theorem slice?_header {reply : Bytes} (h : relayHdrLen ≤ reply.length) :
    slice? reply relayHdrLen reply.length = some (reply.drop relayHdrLen) := by
  rw [slice?, if_pos ⟨h, le_rfl⟩, List.take_length]

/-- What is done with the message of a layer. -/
theorem decapsulate?_of_layer {reply inner : Bytes} (h : Layer reply inner) :
    decapsulate? reply
      = if inner.head? = some relayRepl then decapsulate? inner else some (.ok inner) := by
  have hshort : ¬ reply.length < relayHdrLen := Nat.not_lt_of_le h.header
  have hfirst : reply[0]? = some relayRepl := List.head?_eq_getElem? ▸ h.msgType
  have hscan : extractLoop? (reply.drop relayHdrLen) 0 = some (.ok inner) := by
    rw [extractLoop?_eq]
    exact congrArg some (extractRelayMsg_ok_iff.mpr h.relayMsg)
  rw [decapsulate?, if_neg hshort]
  simp only [hfirst, ne_eq, not_true_eq_false, if_false]
  split
  · next hnone => simp [slice?_header h.header] at hnone
  · next options hsome =>
      obtain rfl := Option.some.inj ((slice?_header h.header).symm.trans hsome)
      split
      · next hnone => simp [hscan] at hnone
      · next e herr => simp [hscan] at herr
      · next inner' hok =>
          obtain rfl : inner = inner' := by simpa [hscan] using hok
          cases inner with
          | nil => rfl
          | cons first rest => simp

/-- Without a layer both versions fail alike. -/
theorem decapsulate?_of_no_layer {reply : Bytes} (h : ∀ inner, ¬ Layer reply inner) :
    decapsulate? reply = some (decapsulate reply) := by
  rw [decapsulate?, decapsulate]
  split
  · rfl
  · next hshort =>
      have hheader : relayHdrLen ≤ reply.length := Nat.le_of_not_lt hshort
      have hpos : 0 < reply.length := Nat.lt_of_lt_of_le (by decide) hheader
      simp only [List.getElem?_eq_getElem hpos]
      split
      · rfl
      · next htype =>
          obtain ⟨text, hread⟩ := extractRelayMsg_of_no_layer h hheader hpos htype
          have hscan : extractLoop? (reply.drop relayHdrLen) 0 = some (.error (.parse text)) := by
            rw [extractLoop?_eq]
            exact congrArg some hread
          trans some (.error (.parse text))
          · split
            · next hnone => simp [slice?_header hheader] at hnone
            · next options hsome =>
                obtain rfl := Option.some.inj ((slice?_header hheader).symm.trans hsome)
                split
                · next hnone => simp [hscan] at hnone
                · next e' herr => exact herr.symm.trans hscan
                · next inner hok => simp [hscan] at hok
          · split
            · next e' herr => rw [Except.error.inj (hread.symm.trans herr)]
            · next inner hok => simp [hread] at hok

/-- **Decapsulation stays in range**, at every layer, and ends. -/
theorem decapsulate?_eq (reply : Bytes) : decapsulate? reply = some (decapsulate reply) := by
  induction reply using layer_induction with
  | stop reply hnone => exact decapsulate?_of_no_layer hnone
  | layer reply inner hlayer ih =>
      rw [decapsulate?_of_layer hlayer, hlayer.decapsulate_eq, ih]
      split
      · rfl
      · rfl

/-! ### Chains -/

/-- **A chain of `n` layers** from `b` down to `m`: every element but the last is a
well-formed layer around the next one, and the last is no Relay-reply. -/
structure IsChain (b m : Bytes) (n : Nat) (chain : Nat → Bytes) : Prop where
  first : chain 0 = b
  last : chain n = m
  nonempty : 1 ≤ n
  header : ∀ i < n, relayHdrLen ≤ (chain i).length
  msgType : ∀ i < n, (chain i).head? = some relayRepl
  relayMsg : ∀ i < n, ∃ (before : List Tlv.Item) (item : Tlv.Item) (rest : Bytes),
    (chain i).drop relayHdrLen = Tlv.writeAll before ++ (item.toBytes ++ rest)
      ∧ (∀ other ∈ before, other.code ≠ optionRelayMsg)
      ∧ item.code = optionRelayMsg ∧ item.value = chain (i + 1)
  innermost : m.head? ≠ some relayRepl

namespace IsChain

variable {b m : Bytes} {n : Nat} {chain : Nat → Bytes}

/-- The outermost layer. -/
theorem layer (h : IsChain b m n chain) {i : Nat} (hi : i < n) :
    Layer (chain i) (chain (i + 1)) where
  header := h.header i hi
  msgType := h.msgType i hi
  relayMsg := Tlv.finds_iff.mpr (h.relayMsg i hi)

/-- A chain of one layer. -/
theorem single (h : Layer b m) (hm : m.head? ≠ some relayRepl) :
    IsChain b m 1 (fun i => if i = 0 then b else m) where
  first := rfl
  last := rfl
  nonempty := le_rfl
  header := by
    intro i hi
    obtain rfl : i = 0 := by omega
    exact h.header
  msgType := by
    intro i hi
    obtain rfl : i = 0 := by omega
    exact h.msgType
  relayMsg := by
    intro i hi
    obtain rfl : i = 0 := by omega
    exact Tlv.finds_iff.mp h.relayMsg
  innermost := hm

/-- One more layer around a chain. -/
theorem cons {outer : Bytes} (h : Layer outer b) (hchain : IsChain b m n chain) :
    IsChain outer m (n + 1) (fun i => Nat.casesOn i outer chain) where
  first := rfl
  last := hchain.last
  nonempty := Nat.le_add_left 1 n
  header := by
    intro i hi
    cases i with
    | zero => exact h.header
    | succ i => exact hchain.header i (Nat.lt_of_succ_lt_succ hi)
  msgType := by
    intro i hi
    cases i with
    | zero => exact h.msgType
    | succ i => exact hchain.msgType i (Nat.lt_of_succ_lt_succ hi)
  relayMsg := by
    intro i hi
    cases i with
    | zero =>
        show ∃ before item rest, outer.drop relayHdrLen = _ ∧ _ ∧ _ ∧ _ = chain 0
        rw [hchain.first]
        exact Tlv.finds_iff.mp h.relayMsg
    | succ i => exact hchain.relayMsg i (Nat.lt_of_succ_lt_succ hi)
  innermost := hchain.innermost

/-- The chain within the outermost layer, where there is more than one. -/
theorem tail (h : IsChain b m (n + 2) chain) :
    IsChain (chain 1) m (n + 1) (fun i => chain (i + 1)) where
  first := rfl
  last := h.last
  nonempty := Nat.le_add_left 1 n
  header := fun i hi => h.header (i + 1) (Nat.succ_lt_succ hi)
  msgType := fun i hi => h.msgType (i + 1) (Nat.succ_lt_succ hi)
  relayMsg := fun i hi => h.relayMsg (i + 1) (Nat.succ_lt_succ hi)
  innermost := h.innermost

/-- **Completeness**: a chain is unwrapped to its end. -/
theorem decapsulate (h : IsChain b m n chain) : RelayFwd.decapsulate b = .ok m := by
  -- on the number of layers
  induction n generalizing b chain with
  | zero => exact absurd h.nonempty (by decide)
  | succ n ih =>
      have hlayer : Layer b (chain 1) := h.first ▸ h.layer (Nat.succ_pos n)
      rw [hlayer.decapsulate_eq]
      cases n with
      | zero =>
          have hlast : chain 1 = m := h.last
          rw [hlast, if_neg h.innermost]
      | succ n => rw [if_pos (h.msgType 1 (Nat.succ_lt_succ (Nat.succ_pos n))), ih h.tail]

/-- **Soundness**: what is unwrapped is the end of a chain. -/
theorem of_decapsulate (h : RelayFwd.decapsulate b = .ok m) : ∃ n chain, IsChain b m n chain := by
  induction b using layer_induction with
  | stop reply hnone =>
      obtain ⟨text, herr⟩ := decapsulate_of_no_layer hnone
      rw [herr] at h
      simp at h
  | layer reply inner hlayer ih =>
      rw [hlayer.decapsulate_eq] at h
      split at h
      · obtain ⟨n, chain, hchain⟩ := ih h
        exact ⟨n + 1, _, hchain.cons hlayer⟩
      · next hinner =>
          obtain rfl : inner = m := Except.ok.inj h
          exact ⟨1, _, single hlayer hinner⟩

/-- The bound on the number of layers, and where the innermost message is. -/
theorem bounds (h : IsChain b m n chain) : m.length + 38 * n ≤ b.length ∧ m <:+: b := by
  -- layer by layer, from the outside
  have hlayers : ∀ i ≤ n, (chain i).length + 38 * i ≤ b.length ∧ chain i <:+: b := by
    intro i
    induction i with
    | zero =>
        intro _
        rw [h.first]
        exact ⟨le_rfl, List.infix_refl b⟩
    | succ i ih =>
        intro hi
        obtain ⟨hlength, hinfix⟩ := ih (Nat.le_of_succ_le hi)
        have hlayer := h.layer hi
        have hstep := hlayer.length_le
        exact ⟨by omega, hlayer.isInfix.trans hinfix⟩
  have hlast := hlayers n le_rfl
  rwa [h.last] at hlast

end IsChain

/-- A decapsulation that fails does so with a parse error. -/
theorem decapsulate_error {reply : Bytes} {e : RelayError} (h : decapsulate reply = .error e) :
    ∃ text, e = .parse text := by
  induction reply using layer_induction with
  | stop reply hnone =>
      obtain ⟨text, herr⟩ := decapsulate_of_no_layer hnone
      exact ⟨text, (Except.error.inj (herr.symm.trans h)).symm⟩
  | layer reply inner hlayer ih =>
      rw [hlayer.decapsulate_eq] at h
      split at h
      · exact ih h
      · simp at h

/-- **Decapsulation accepts exactly the chains of well-formed layers.** It always ends,
with every access in range; it yields the end of the chain, if there is one, and a parse
error if there is none; and a chain has at most one layer for each thirty-eight bytes,
its end being a piece of the input. -/
theorem decapsulate_iff_chain (b : Bytes) :
    decapsulate? b = some (decapsulate b)
      ∧ (∀ m, decapsulate b = .ok m ↔ ∃ n chain, IsChain b m n chain)
      ∧ ((¬ ∃ m n chain, IsChain b m n chain) → ∃ text, decapsulate b = .error (.parse text))
      ∧ ∀ m n chain, IsChain b m n chain → n ≤ b.length / 38 ∧ m <:+: b := by
  refine ⟨decapsulate?_eq b, ?_, ?_, ?_⟩
  · intro m
    constructor
    · exact IsChain.of_decapsulate
    · intro h
      obtain ⟨n, chain, hchain⟩ := h
      exact hchain.decapsulate
  · intro hnone
    cases hresult : decapsulate b with
    | ok m => exact absurd ⟨m, IsChain.of_decapsulate hresult⟩ hnone
    | error e =>
        obtain ⟨text, rfl⟩ := decapsulate_error hresult
        exact ⟨text, rfl⟩
  · intro m n chain hchain
    obtain ⟨hlength, hinfix⟩ := hchain.bounds
    exact ⟨by omega, hinfix⟩

/-! ### Wrapping level by level -/

/-- A message wrapped by a relay and turned into a Relay-reply: its first byte is
overwritten. -/
def wrapReply (m : Bytes) (hop : Ipv6Addr × SocketAddr) : Bytes :=
  (encapsulate m hop.1 hop.2).set 0 relayRepl

/-- One level is a layer, whatever the addresses are, if the length field holds. -/
theorem layer_wrapReply {m : Bytes} (h : m.length ≤ 65535) (hop : Ipv6Addr × SocketAddr) :
    Layer (wrapReply m hop) m := by
  obtain ⟨linkAddr, peerAddr⟩ := hop
  have hfits : m.length < 65536 := Nat.lt_succ_of_le h
  let item : Tlv.Item := ⟨optionRelayMsg, m, hfits⟩
  have hbytes : wrapReply m (linkAddr, peerAddr)
      = replyBytes 0 linkAddr (peerIp peerAddr) (Tlv.writeAll [] ++ (item.toBytes ++ [])) := by
    simp [wrapReply, encapsulate, replyBytes, Tlv.writeAll, Tlv.Item.toBytes, item]
  rw [hbytes]
  exact layer_replyBytes (by simp) rfl 0 linkAddr (peerIp peerAddr) []

/-- **Round trip at any depth**: what was wrapped once for each pair of addresses comes
out again, as long as every level fits its length field. A peer may be of either
address family. -/
theorem decapsulate_wrapReply (m : Bytes) (hops : List (Ipv6Addr × SocketAddr))
    (hm : m.head? ≠ some relayRepl) (hne : hops ≠ [])
    (hfits : Along wrapReply (fun wrapped _ => wrapped.length ≤ 65535) m hops) :
    decapsulate (run wrapReply m hops) = .ok m := by
  -- on the levels, from the outermost
  induction hops using List.reverseRecOn with
  | nil => exact absurd rfl hne
  | append_singleton hops hop ih =>
      obtain ⟨hfits, hlast⟩ := Along.concat_iff.mp hfits
      rw [run_concat, (layer_wrapReply hlast hop).decapsulate_eq]
      rcases hops.eq_nil_or_concat with rfl | ⟨before, last, hhops⟩
      · rw [run_nil, if_neg hm]
      · rw [List.concat_eq_append] at hhops
        have hhead : (run wrapReply m hops).head? = some relayRepl := by
          rw [hhops, run_concat]
          rfl
        rw [if_pos hhead]
        exact ih (by simp [hhops]) hfits

/-- Two levels, the outer one with an IPv4 peer. -/
def sampleHops : List (Ipv6Addr × SocketAddr) :=
  [(.ofSegments [0xfe80, 1], .v6 (.ofSegments [0xfe80, 2]) 547 0 0),
    (.unspecified, .v4 ⟨10, 0, 0, 1⟩ 547)]

theorem sampleHops_decapsulate :
    decapsulate (run wrapReply [7, 0, 0, 1] sampleHops) = .ok [7, 0, 0, 1] := by
  refine decapsulate_wrapReply [7, 0, 0, 1] sampleHops (by decide) (by decide) ?_
  show Along wrapReply _ _ ([] ++ [_] ++ [_])
  rw [Along.concat_iff, Along.concat_iff]
  exact ⟨⟨Along.nil, by decide⟩, by decide⟩

end DhcpRelay.V6.RelayFwd
