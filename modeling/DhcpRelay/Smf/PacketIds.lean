import DhcpRelay.Smf.DpdIpv6
import DhcpRelay.Smf.DpdSize

/-!
# DhcpRelay.Smf.PacketIds

**What duplicate detection takes for the same packet** (`smf/dpd_ipv4.rs`, `smf/dpd_ipv6.rs` and
`h_dpd_hash` in `smf/dpd.rs`), and which packets it therefore loses.

A packet is known by its addresses and a number: in I-DPD the one its sender counted up and cut
to 16 or 32 bits, in H-DPD a hash of its beginning. Two different packets may share a number. A
new packet is let through where no other with its number was accepted that may still be
remembered, and refused where one was within the last window; so the rate at which a sender may
number its packets, and the collisions that count, can be read off. What was accepted is
remembered for a window and a quarter at most, but for ever where the window is below four
seconds, since nothing is evicted then.

The hash, `murmur3_x64_128` with seed 0, is a parameter.
-/

namespace DhcpRelay.Smf

open DhcpRelay.Library

/-- Generate a DPD packet identifier from an IPv4 Identification field (I-DPD mode). -/
def iDpdPacketId (src dst : IpAddr) (ipId : UInt16) : DpdKey where
  srcAddr := src
  dstAddr := dst
  packetId := ipId.toUInt64

/-- Generate an I-DPD packet identifier using a raw identifier. -/
def iDpdPacketIdFromRaw (src dst : IpAddr) (identifier : UInt32) : DpdKey where
  srcAddr := src
  dstAddr := dst
  packetId := identifier.toUInt64

/-- The octets of an address of either family. -/
def ipOctets : IpAddr → Bytes
  | .v4 ip => ip.octets
  | .v6 ip => ip.octets.toList

/-- `murmur3_x64_128` of a buffer, with seed 0. -/
abbrev Murmur3 := Bytes → BitVec 128

/-- Compute an H-DPD key and Hash Assist Value from packet content. -/
def hDpdHash (murmur3 : Murmur3) (src dst : IpAddr) (payload : Bytes) : DpdKey × UInt64 :=
  let hashLen := min 64 payload.length
  let input := ipOctets src ++ ipOctets dst ++ payload.take hashLen
  let packetId := UInt64.ofNat (murmur3 input &&& 0xffffffffffffffff#128).toNat
  ({ srcAddr := src, dstAddr := dst, packetId := packetId }, packetId)

/-- `dpd_ipv4::h_dpd_packet_id`. -/
def DpdIpv4.hDpdPacketId (murmur3 : Murmur3) (src dst : IpAddr) (payload : Bytes) : DpdKey :=
  (hDpdHash murmur3 src dst payload).1

/-- `dpd_ipv6::h_dpd_packet_id`. -/
def DpdIpv6.hDpdPacketId (murmur3 : Murmur3) (src dst : IpAddr) (payload : Bytes) :
    DpdKey × UInt64 :=
  hDpdHash murmur3 src dst payload

/-- Check whether there was an H-DPD collision. -/
def hasCollision (cachedHav : Option UInt64) (currentHav : UInt64) : Bool :=
  match cachedHav with
  | some hav => hav == currentHav
  | none => false

/-! ### A cache in front of packets -/

/-- What may happen next to a cache that packets are checked against. -/
inductive GateAction (π : Type)
  | packet (p : π) (ttl : UInt8)
  | tick
  | pass (instants : Nat)

/-- The packets that have arrived, with how their checks went. -/
structure Gate (π : Type) where
  use : CacheInUse
  arrivals : List (π × Call) := []

namespace Gate

variable {π : Type}

/-- A packet is checked under its key. -/
def step (key : π → DpdKey) (gate : Gate π) : GateAction π → Gate π
  | .packet p ttl =>
    let result := (gate.use.history.cache.checkAndInsert (key p) ttl gate.use.now).1
    { use := gate.use.step (.check (key p) ttl)
      arrivals := gate.arrivals
        ++ [(p, { key := key p, ttl := ttl, time := gate.use.now, result := result })] }
  | .tick => { gate with use := gate.use.step .tick }
  | .pass instants => { gate with use := gate.use.step (.pass instants) }

/-- A new engine, on which eviction is started at once, after these actions. -/
def after (key : π → DpdKey) (config : SmfConfig) (localAddrs : List IpAddr) (start : Int)
    (actions : List (GateAction π)) : Gate π :=
  run (step key) { use := .ofEngine (.new config localAddrs) start } actions

/-- The action on the cache. -/
def toCache (key : π → DpdKey) : GateAction π → CacheAction
  | .packet p ttl => .check (key p) ttl
  | .tick => .tick
  | .pass instants => .pass instants

variable {key : π → DpdKey} {config : SmfConfig} {localAddrs : List IpAddr} {start : Int}
  {actions : List (GateAction π)} {before : List (π × Call)} {a b : π × Call}

/-! ### What a gate keeps -/

/-- The arrivals are the checks of the cache, each under the key of its packet. -/
structure Faithful (key : π → DpdKey) (gate : Gate π) : Prop where
  calls_eq : gate.arrivals.map Prod.snd = gate.use.history.calls
  keyed : ∀ a ∈ gate.arrivals, a.2.key = key a.1

theorem Faithful.step {gate : Gate π} (h : Faithful key gate) (action : GateAction π) :
    Faithful key (gate.step key action) := by
  cases action with
  | packet p ttl =>
      refine ⟨?_, fun a ha => ?_⟩
      · show (gate.arrivals ++ [_]).map Prod.snd = gate.use.history.calls ++ [_]
        rw [List.map_append, h.calls_eq]
        rfl
      · rcases List.mem_append.mp ha with ha | ha
        · exact h.keyed a ha
        · obtain rfl := List.mem_singleton.mp ha
          rfl
  | tick =>
      refine ⟨?_, h.keyed⟩
      show gate.arrivals.map Prod.snd = gate.use.tick.history.calls
      rw [h.calls_eq, CacheInUse.tick]
      split
      · split <;> rfl
      · rfl
  | pass instants =>
      refine ⟨?_, h.keyed⟩
      show gate.arrivals.map Prod.snd = (gate.use.pass instants).history.calls
      rw [h.calls_eq, CacheInUse.pass]
      split
      · split <;> rfl
      · rfl

theorem after_faithful (key : π → DpdKey) (config : SmfConfig) (localAddrs : List IpAddr)
    (start : Int) (actions : List (GateAction π)) :
    Faithful key (after key config localAddrs start actions) :=
  run_induction (P := fun _ gate => Faithful key gate) ⟨rfl, by simp⟩
    (fun _ action ih => ih.step action) actions

/-- The cache of a gate is one in use. -/
theorem after_use (key : π → DpdKey) (config : SmfConfig) (localAddrs : List IpAddr)
    (start : Int) (actions : List (GateAction π)) :
    (after key config localAddrs start actions).use
      = CacheInUse.afterActions config localAddrs start (actions.map (toCache key)) := by
  refine run_induction (P := fun actions (gate : Gate π) => gate.use
    = CacheInUse.afterActions config localAddrs start (actions.map (toCache key))) rfl ?_ actions
  intro actions action ih
  rw [List.map_append, List.map_singleton, CacheInUse.afterActions, run_concat,
    ← CacheInUse.afterActions, ← ih]
  cases action <;> rfl

end Gate

/-- Whatever the task does, a cache in use keeps the invariant of `DpdWindow`. -/
theorem CacheInUse.afterActions_inv (config : SmfConfig) (localAddrs : List IpAddr) (start : Int)
    (actions : List CacheAction) :
    History.Inv (fromSecs config.dpdWindowSecs) (afterActions config localAddrs start actions).now
      (afterActions config localAddrs start actions).history := by
  refine run_induction (P := fun _ (s : CacheInUse) =>
    History.Inv (fromSecs config.dpdWindowSecs) s.now s.history) ?_ ?_ actions
  · exact ⟨rfl, by simp [ofEngine], by simp [ofEngine],
      by simp [ofEngine, SmfEngine.new, DpdCache.new], .nil, by simp [ofEngine]⟩
  · intro actions action ih
    cases action with
    | check key ttl =>
        let now := (run CacheInUse.step (ofEngine (.new config localAddrs) start) actions).now
        have hle : now ≤ (Op.check key ttl now).time := le_rfl
        exact ih.step hle
    | tick =>
        show History.Inv _ (tick _).now (tick _).history
        rw [tick]
        split
        · split
          · exact ih.evict
          · exact ih
        · exact ih
    | pass instants =>
        show History.Inv _ (pass _ instants).now (pass _ instants).history
        rw [pass]
        split
        · split
          · exact ih.later (by dsimp only; omega)
          · exact ih
        · exact ih.later (by dsimp only; omega)

namespace Gate

variable {π : Type} {key : π → DpdKey} {config : SmfConfig} {localAddrs : List IpAddr}
  {start : Int} {actions : List (GateAction π)} {before : List (π × Call)} {a b : π × Call}

/-- How long a packet may be remembered, where there is eviction. -/
def memory (config : SmfConfig) : Nat :=
  fromSecs config.dpdWindowSecs + fromSecs config.dpdWindowSecs / 4

/-- What was accepted in the one check may still be remembered in the other: with a window of
four seconds or more for a window and a quarter, with a smaller one for ever. -/
def MayRemember (config : SmfConfig) (earlier later : Call) : Prop :=
  4 ≤ config.dpdWindowSecs → later.time ≤ earlier.time + (memory config : Int)

theorem prefix_calls (h : before ++ [a] <+: (after key config localAddrs start actions).arrivals) :
    before.map Prod.snd ++ [a.2]
      <+: (after key config localAddrs start actions).use.history.calls := by
  rw [← (after_faithful key config localAddrs start actions).calls_eq]
  simpa using h.map Prod.snd

/-- **Who is let through**: a packet whose key no other had that was accepted and may still be
remembered. -/
theorem accepted_of_distinct
    (h : before ++ [a] <+: (after key config localAddrs start actions).arrivals)
    (hdistinct : ∀ b ∈ before, b.2.Accepted → MayRemember config b.2 a.2 → key b.1 ≠ key a.1) :
    a.2.Accepted := by
  have hfaithful := after_faithful key config localAddrs start actions
  have hmem : ∀ c ∈ before ++ [a], c.2.key = key c.1 :=
    fun c hc => hfaithful.keyed c (h.subset hc)
  have hkeys : ∀ b ∈ before, b.2.key = a.2.key → key b.1 = key a.1 := by
    intro b hb hkey
    rw [← hmem b (List.mem_append_left _ hb), ← hmem a (by simp), hkey]
  by_cases hlong : 4 ≤ config.dpdWindowSecs
  · obtain ⟨nextTick, hticking⟩ := CacheInUse.afterActions_ticking hlong localAddrs start
      (actions.map (toCache key))
    rw [← after_use] at hticking
    refine hticking.expires _ a.2 (prefix_calls h) fun earlier hearlier hkey hok => ?_
    obtain ⟨b, hb, rfl⟩ := List.mem_map.mp hearlier
    by_contra hrecent
    exact hdistinct b hb hok (fun _ => not_lt.mp hrecent) (hkeys b hb hkey)
  · -- nothing is evicted, but what is refused has been accepted before all the same
    have hinv := CacheInUse.afterActions_inv config localAddrs start (actions.map (toCache key))
    rw [← after_use] at hinv
    refine (hinv.justified _ _ (prefix_calls h)).accepted fun earlier hearlier hkey hok => ?_
    obtain ⟨b, hb, rfl⟩ := List.mem_map.mp hearlier
    exact hdistinct b hb hok (fun hyes => absurd hyes hlong) (hkeys b hb hkey)

/-- **Who is refused**: a packet whose key another one had that was accepted, with a TTL that is
no smaller, less than a window ago. -/
theorem not_accepted_of_same
    (h : before ++ [a] <+: (after key config localAddrs start actions).arrivals) (hb : b ∈ before)
    (hok : b.2.Accepted) (hkey : key b.1 = key a.1) (httl : a.2.ttl ≤ b.2.ttl)
    (hrecent : a.2.time < b.2.time + (fromSecs config.dpdWindowSecs : Int)) :
    ¬ a.2.Accepted := by
  intro haccepted
  have hfaithful := after_faithful key config localAddrs start actions
  have hinv := CacheInUse.afterActions_inv config localAddrs start (actions.map (toCache key))
  rw [← after_use] at hinv
  have hpairs := hinv.spaced.sublist (prefix_calls h).sublist
  have hspaced := (List.pairwise_append.mp hpairs).2.2 b.2 (List.mem_map_of_mem hb) a.2
    (List.mem_singleton_self _)
  have hsame : b.2.key = a.2.key := by
    rw [hfaithful.keyed b (h.subset (List.mem_append_left _ hb)), hkey,
      hfaithful.keyed a (h.subset (by simp))]
  rcases hspaced hsame hok haccepted with hlarger | hlater
  · exact absurd hlarger (not_lt_of_ge httl)
  · exact absurd hrecent (not_lt_of_ge hlater)

end Gate

/-! ### Packets that are numbered -/

/-- A packet of a flow, and its number in it. -/
@[ext]
structure Numbered where
  srcAddr : IpAddr
  dstAddr : IpAddr
  seq : Nat
  deriving DecidableEq

/-- Where its sender puts the number. -/
inductive IdField
  /-- the Identification of the IPv4 header -/
  | ipv4
  /-- the Identification of the Fragment header of IPv6 -/
  | fragment
  deriving DecidableEq

namespace IdField

/-- How many identifiers there are. -/
def ids : IdField → Nat
  | ipv4 => 2 ^ 16
  | fragment => 2 ^ 32

/-- The key of a packet whose sender counts up its identifier. -/
def key : IdField → Numbered → DpdKey
  | ipv4, p => iDpdPacketId p.srcAddr p.dstAddr (UInt16.ofNat p.seq)
  | fragment, p => iDpdPacketIdFromRaw p.srcAddr p.dstAddr (UInt32.ofNat p.seq)

/-- The key is the flow and the number, as far as that fits. -/
theorem key_eq_iff (field : IdField) (p p' : Numbered) :
    field.key p = field.key p'
      ↔ p.srcAddr = p'.srcAddr ∧ p.dstAddr = p'.dstAddr
        ∧ p.seq % field.ids = p'.seq % field.ids := by
  cases field with
  | ipv4 =>
      rw [key, key, iDpdPacketId, iDpdPacketId, DpdKey.mk.injEq, ← UInt64.toNat_inj]
      simp [ids]
  | fragment =>
      rw [key, key, iDpdPacketIdFromRaw, iDpdPacketIdFromRaw, DpdKey.mk.injEq,
        ← UInt64.toNat_inj]
      simp [ids]

end IdField

/-- Numbers less than a modulus apart are told apart by their remainders. -/
theorem eq_of_mod_eq_of_near {m n n' : Nat} (h : n % m = n' % m) (hlt : n < n' + m)
    (hlt' : n' < n + m) : n = n' := by
  have hdvd : m ∣ n - n' := Nat.dvd_of_mod_eq_zero (Nat.sub_mod_eq_zero_of_mod_eq h)
  have hdvd' : m ∣ n' - n := Nat.dvd_of_mod_eq_zero (Nat.sub_mod_eq_zero_of_mod_eq h.symm)
  have hzero : n - n' = 0 := Nat.eq_zero_of_dvd_of_lt hdvd (by omega)
  have hzero' : n' - n = 0 := Nat.eq_zero_of_dvd_of_lt hdvd' (by omega)
  omega

/-- The packets are of one flow. -/
def Numbered.SameFlow (p p' : Numbered) : Prop := p.srcAddr = p'.srcAddr ∧ p.dstAddr = p'.dstAddr

/-- **When a sender numbers its packets too fast**, over any run of arrivals. A packet that
arrives for the first time is let through where the packets of its flow that may still be
remembered have numbers less than one round of the identifier away from its own. Where one of its
flow was accepted a round ago or several, within a window and with no smaller TTL, it is
refused. -/
theorem numbered_packets (field : IdField) (config : SmfConfig) (localAddrs : List IpAddr)
    (start : Int) (actions : List (GateAction Numbered)) (before : List (Numbered × Call))
    (a : Numbered × Call)
    (h : before ++ [a] <+: (Gate.after field.key config localAddrs start actions).arrivals) :
    ((∀ b ∈ before, b.1 ≠ a.1) →
        (∀ b ∈ before, b.1.SameFlow a.1 → Gate.MayRemember config b.2 a.2 →
          b.1.seq < a.1.seq + field.ids ∧ a.1.seq < b.1.seq + field.ids) → a.2.Accepted)
      ∧ ∀ b ∈ before, b.2.Accepted → b.1.SameFlow a.1 →
          b.1.seq % field.ids = a.1.seq % field.ids → a.2.ttl ≤ b.2.ttl →
          a.2.time < b.2.time + (fromSecs config.dpdWindowSecs : Int) → ¬ a.2.Accepted := by
  constructor
  · intro hfresh hnear
    refine Gate.accepted_of_distinct h fun b hb _ hrecent hkey => ?_
    obtain ⟨hsrc, hdst, hmod⟩ := (field.key_eq_iff b.1 a.1).mp hkey
    obtain ⟨hlt, hlt'⟩ := hnear b hb ⟨hsrc, hdst⟩ hrecent
    have hseq : b.1.seq = a.1.seq := eq_of_mod_eq_of_near hmod hlt hlt'
    have hsame : b.1 = a.1 := by
      obtain ⟨⟨src, dst, seq⟩, _⟩ := b
      exact Numbered.ext hsrc hdst hseq
    exact hfresh b hb hsame
  · intro b hb hok hflow hmod httl hrecent
    exact Gate.not_accepted_of_same h hb hok
      ((field.key_eq_iff b.1 a.1).mpr ⟨hflow.1, hflow.2, hmod⟩) httl hrecent

/-- A packet, and the one of its flow that is a round of the identifier later. -/
def sampleRound : List (GateAction Numbered) :=
  [.packet ⟨.v4 ⟨10, 0, 0, 1⟩, .v4 ⟨224, 0, 0, 1⟩, 7⟩ 64, .pass 1000,
    .packet ⟨.v4 ⟨10, 0, 0, 1⟩, .v4 ⟨224, 0, 0, 1⟩, 65543⟩ 64]

/-- It is lost. -/
theorem sampleRound_lost : ∃ first second,
    (Gate.after IdField.ipv4.key {} [] 0 sampleRound).arrivals = [first, second]
      ∧ first.1 ≠ second.1 ∧ ¬ second.2.Accepted :=
  ⟨_, _, rfl, by decide, (numbered_packets .ipv4 {} [] 0 sampleRound [_] _
    (List.prefix_refl _)).2 _ (List.mem_singleton_self _) rfl ⟨rfl, rfl⟩ rfl le_rfl (by decide)⟩

/-! ### Packets that are hashed -/

/-- A packet, as far as its hash is concerned. -/
structure Hashed where
  srcAddr : IpAddr
  dstAddr : IpAddr
  payload : Bytes
  deriving DecidableEq

namespace Hashed

/-- The packets are of one flow. -/
def SameFlow (p p' : Hashed) : Prop := p.srcAddr = p'.srcAddr ∧ p.dstAddr = p'.dstAddr

/-- The key of a packet in H-DPD mode, the same in IPv4 and in IPv6. -/
def key (murmur3 : Murmur3) (p : Hashed) : DpdKey :=
  DpdIpv4.hDpdPacketId murmur3 p.srcAddr p.dstAddr p.payload

/-- The Hash Assist Value of a packet. -/
def hav (murmur3 : Murmur3) (p : Hashed) : UInt64 :=
  (DpdIpv6.hDpdPacketId murmur3 p.srcAddr p.dstAddr p.payload).2

/-- The first hash is found in a cache, and collides with the second one. -/
def Collides (murmur3 : Murmur3) (p p' : Hashed) : Prop :=
  hasCollision (some (p.hav murmur3)) (p'.hav murmur3) = true

variable {murmur3 : Murmur3} {p p' : Hashed}

/-- Packets of one flow are taken for the same exactly where their hashes collide. -/
theorem key_eq_iff :
    p.key murmur3 = p'.key murmur3 ↔ p.SameFlow p' ∧ Collides murmur3 p p' := by
  rw [Collides, hasCollision, beq_iff_eq, SameFlow, and_assoc]
  exact DpdKey.mk.injEq .. ▸ Iff.rfl

/-- The hash is one of the addresses and the first 64 bytes. -/
theorem hav_eq (murmur3 : Murmur3) (p : Hashed) :
    p.hav murmur3 = UInt64.ofNat (murmur3 (ipOctets p.srcAddr ++ ipOctets p.dstAddr
      ++ p.payload.take 64) &&& 0xffffffffffffffff#128).toNat := by
  have htake : p.payload.take (min 64 p.payload.length) = p.payload.take 64 :=
    List.take_eq_take_min.symm
  rw [hav, DpdIpv6.hDpdPacketId, hDpdHash, ← htake]

/-- No byte beyond these counts. -/
theorem collides_of_take (hflow : p.SameFlow p')
    (h : p.payload.take 64 = p'.payload.take 64) : Collides murmur3 p p' := by
  rw [Collides, hasCollision, beq_iff_eq, hav_eq, hav_eq, hflow.1, hflow.2, h]

end Hashed

/-- **`has_collision` decides**, over any run of arrivals and for any hash. A packet is let
through where its hash collides with that of none of its flow that was accepted and may still be
remembered, and refused where it collides with that of one accepted in the last window with no
smaller TTL; and packets of one flow with the same first 64 bytes do collide. -/
theorem hashed_packets (murmur3 : Murmur3) (config : SmfConfig) (localAddrs : List IpAddr)
    (start : Int) (actions : List (GateAction Hashed)) (before : List (Hashed × Call))
    (a : Hashed × Call)
    (h : before ++ [a] <+: (Gate.after (Hashed.key murmur3) config localAddrs start
      actions).arrivals) :
    ((∀ b ∈ before, b.2.Accepted → b.1.SameFlow a.1 → Gate.MayRemember config b.2 a.2 →
          ¬ Hashed.Collides murmur3 b.1 a.1) → a.2.Accepted)
      ∧ ∀ b ∈ before, b.1.SameFlow a.1 →
        (b.1.payload.take 64 = a.1.payload.take 64 → Hashed.Collides murmur3 b.1 a.1)
        ∧ (b.2.Accepted → Hashed.Collides murmur3 b.1 a.1 → a.2.ttl ≤ b.2.ttl →
          a.2.time < b.2.time + (fromSecs config.dpdWindowSecs : Int) → ¬ a.2.Accepted) := by
  constructor
  · intro hdiffer
    refine Gate.accepted_of_distinct h fun b hb hok hrecent hkey => ?_
    obtain ⟨hflow, hcollides⟩ := Hashed.key_eq_iff.mp hkey
    exact hdiffer b hb hok hflow hrecent hcollides
  · intro b hb hflow
    refine ⟨Hashed.collides_of_take hflow, fun hok hcollides httl hrecent => ?_⟩
    exact Gate.not_accepted_of_same h hb hok (Hashed.key_eq_iff.mpr ⟨hflow, hcollides⟩) httl
      hrecent

/-- `hello world` from 10.0.0.1 to 224.0.0.1. -/
def sampleHello : Hashed :=
  ⟨.v4 ⟨10, 0, 0, 1⟩, .v4 ⟨224, 0, 0, 1⟩, [104, 101, 108, 108, 111, 32, 119, 111, 114, 108, 100]⟩

/-- The hash of this packet. -/
def sampleMurmur3 : Murmur3 := fun _ => 0x1323995f96addbdd7e5094b646fe80d7#128

/-- A copy of it is a duplicate. -/
theorem sampleHello_duplicate : ∃ first second,
    (Gate.after (Hashed.key sampleMurmur3) {} [] 0
        [.packet sampleHello 64, .packet sampleHello 64]).arrivals = [first, second]
      ∧ first.2.Accepted ∧ ¬ second.2.Accepted :=
  ⟨_, _, rfl, rfl, ((hashed_packets sampleMurmur3 {} [] 0
    [.packet sampleHello 64, .packet sampleHello 64] [_] _ (List.prefix_refl _)).2 _
    (List.mem_singleton_self _) ⟨rfl, rfl⟩).2 rfl (beq_self_eq_true _) le_rfl (by decide)⟩

end DhcpRelay.Smf
