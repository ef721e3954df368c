import DhcpRelay.AgentRuns
import DhcpRelay.V6.Nesting

/-!
# DhcpRelay.AgentStats

**When the statistics tell the truth.** `Truthful` says what five of the counters are to
count, in terms of what became of each datagram. Two of them count more than that
(`packets_dropped_spoof` every request that ends in an error, `option82_stripped` every
reply that is forwarded) and three are never touched. None errs in both directions, so
the errors of a run do not cancel out: the statistics are true at its end exactly if each
datagram of the run is counted right, and whether it is can be told from the datagram and
the configuration (`Arrival.Reported`).
-/

namespace DhcpRelay

open DhcpRelay.Library

/-! ### What is to be counted -/

/-- The datagram is a message with an Option 82. -/
def V4.has82 (proto : V4.Codec) (data : Bytes) : Bool :=
  match proto.decode data with
  | .ok msg => msg.option82.isSome
  | .error _ => false

/-- The datagram is a message with a VSS-Control sub-option in its Option 82. -/
def V4.hasVssControl (proto : V4.Codec) (data : Bytes) : Bool :=
  match proto.decode data with
  | .ok msg => (msg.option82.bind (·.get? V4.RelayCode.virtualSubnetControl)).isSome
  | .error _ => false

namespace Fate

/-- The pipeline ended in `GiaddrSpoof`. -/
def spoofed (fate : Fate) : Bool :=
  match fate.out with
  | some (.error (.giaddrSpoof _), _) => true
  | _ => false

/-- The datagram, or the message wrapped in it, could not be decoded. -/
def undecodable (fate : Fate) : Bool :=
  match fate, fate.out with
  | undecoded, _ => true
  | _, some (.error (.parse _), _) => true
  | _, _ => false

/-- The DHCPv4 request pipeline ended in an error. -/
def refused : Fate → Bool
  | clientV4 (.error _, _) => true
  | _ => false

/-- The DHCPv4 reply pipeline let a reply through. -/
def answered : Fate → Bool
  | serverV4 (.ok true, _) => true
  | _ => false

end Fate

namespace Arrival

def data : Arrival → Bytes
  | .v4 _ data _ => data
  | .v6 _ _ data _ => data

/-- A request that was forwarded, and got its Option 82 here. -/
def inserted (v4 : V4.Codec) (v6 : V6.Codec) (a : Arrival) : Bool :=
  match a.fate v4 v6 with
  | .clientV4 (.ok true, ctx) => !V4.has82 v4 a.data && V4.has82 v4 ctx.buffer
  | _ => false

/-- A reply that was forwarded, and lost its Option 82 here. -/
def stripped (v4 : V4.Codec) (v6 : V6.Codec) (a : Arrival) : Bool :=
  match a.fate v4 v6 with
  | .serverV4 (.ok true, ctx) => V4.has82 v4 a.data && !V4.has82 v4 ctx.buffer
  | _ => false

/-- A reply that still has the VSS-Control sub-option, while VSS is enabled. -/
def vssKept (v4 : V4.Codec) (v6 : V6.Codec) (a : Arrival) : Bool :=
  match a, a.fate v4 v6 with
  | .v4 task data _, .serverV4 _ => task.ctx.vssEnabled && V4.hasVssControl v4 data
  | _, _ => false

end Arrival

/-- What the counters are to say about a run. -/
structure Truthful (v4 : V4.Codec) (v6 : V6.Codec) (arrivals : List Arrival)
    (stats : RelayStats) : Prop where
  spoof : stats.packetsDroppedSpoof = arrivals.countP fun a => (a.fate v4 v6).spoofed
  parseError : stats.packetsDroppedParseError
    = arrivals.countP fun a => (a.fate v4 v6).undecodable
  inserted : stats.option82Inserted = arrivals.countP (Arrival.inserted v4 v6)
  stripped : stats.option82Stripped = arrivals.countP (Arrival.stripped v4 v6)
  vssNotSupported : stats.vssNotSupported = arrivals.countP (Arrival.vssKept v4 v6)

/-! ### What is counted -/

/-- The datagram is counted right by each of the five counters. -/
structure Arrival.Honest (v4 : V4.Codec) (v6 : V6.Codec) (a : Arrival) : Prop where
  spoof : (a.fate v4 v6).refused = true → (a.fate v4 v6).spoofed = true
  parseError : ¬ (a.fate v4 v6).undecodable = true
  inserted : ¬ a.inserted v4 v6 = true
  stripped : (a.fate v4 v6).answered = true → a.stripped v4 v6 = true
  vssNotSupported : ¬ a.vssKept v4 v6 = true

section

variable {v4 : V4.Codec} {v6 : V6.Codec} {a : Arrival} {arrivals : List Arrival}

theorem Fate.spoofed_iff {fate : Fate} :
    fate.spoofed = true ↔ ∃ text ctx, fate.out = some (.error (.giaddrSpoof text), ctx) := by
  unfold spoofed
  split
  · next text ctx hout => simp [hout]
  · next hother =>
      constructor
      · intro h
        simp at h
      · intro h
        obtain ⟨text, ctx, hout⟩ := h
        exact absurd hout (hother text ctx)

theorem Fate.undecodable_iff {fate : Fate} :
    fate.undecodable = true
      ↔ fate = .undecoded ∨ ∃ text ctx, fate.out = some (.error (.parse text), ctx) := by
  unfold undecodable
  split
  · simp
  · next text ctx _ hout => simp [hout]
  · next hdecoded hother =>
      constructor
      · intro h
        simp at h
      · intro h
        rcases h with rfl | ⟨text, ctx, hout⟩
        · exact absurd rfl hdecoded
        · exact absurd hout (hother text ctx)

theorem Fate.refused_iff {fate : Fate} :
    fate.refused = true ↔ ∃ e ctx, fate = .clientV4 (.error e, ctx) := by
  unfold refused
  split
  · simp
  · next hother => simpa using hother

theorem Fate.answered_iff {fate : Fate} :
    fate.answered = true ↔ ∃ ctx, fate = .serverV4 (.ok true, ctx) := by
  unfold answered
  split
  · simp
  · next hother => simpa using hother

theorem Arrival.inserted_iff :
    a.inserted v4 v6 = true
      ↔ ∃ ctx, a.fate v4 v6 = .clientV4 (.ok true, ctx)
        ∧ V4.has82 v4 a.data = false ∧ V4.has82 v4 ctx.buffer = true := by
  unfold inserted
  split
  · next ctx hfate => simp [hfate]
  · next hother => simpa using fun ctx hfate => (hother ctx hfate).elim

theorem Arrival.stripped_iff :
    a.stripped v4 v6 = true
      ↔ ∃ ctx, a.fate v4 v6 = .serverV4 (.ok true, ctx)
        ∧ V4.has82 v4 a.data = true ∧ V4.has82 v4 ctx.buffer = false := by
  unfold stripped
  split
  · next ctx hfate => simp [hfate]
  · next hother => simpa using fun ctx hfate => (hother ctx hfate).elim

theorem Fate.count_spoof (fate : Fate) (stats : RelayStats) :
    (fate.count stats).packetsDroppedSpoof
      = stats.packetsDroppedSpoof + if fate.refused then 1 else 0 := by
  cases fate with
  | undecoded | ignored => rfl
  | clientV4 out | serverV4 out | clientV6 out | serverV6 out =>
      rcases out with ⟨_ | _ | _, ctx⟩ <;> rfl

theorem Fate.count_stripped (fate : Fate) (stats : RelayStats) :
    (fate.count stats).option82Stripped
      = stats.option82Stripped + if fate.answered then 1 else 0 := by
  cases fate with
  | undecoded | ignored => rfl
  | clientV4 out | serverV4 out | clientV6 out | serverV6 out =>
      rcases out with ⟨_ | _ | _, ctx⟩ <;> rfl

/-- What `packets_dropped_spoof` counts. -/
theorem Traffic.run_refused (v4 : V4.Codec) (v6 : V6.Codec) (arrivals : List Arrival) :
    (run (Traffic.handle v4 v6) {} arrivals).stats.packetsDroppedSpoof
      = arrivals.countP fun a => (a.fate v4 v6).refused := by
  have hcount : (run (Traffic.handle v4 v6) {} arrivals).stats.packetsDroppedSpoof
      = 0 + arrivals.countP fun a => (a.fate v4 v6).refused :=
    Traffic.run_counter RelayStats.packetsDroppedSpoof (fun _ _ => Fate.count_spoof _ _)
      (fun _ => rfl) arrivals
  rw [hcount, Nat.zero_add]

/-- What `option82_stripped` counts. -/
theorem Traffic.run_answered (v4 : V4.Codec) (v6 : V6.Codec) (arrivals : List Arrival) :
    (run (Traffic.handle v4 v6) {} arrivals).stats.option82Stripped
      = arrivals.countP fun a => (a.fate v4 v6).answered := by
  have hcount : (run (Traffic.handle v4 v6) {} arrivals).stats.option82Stripped
      = 0 + arrivals.countP fun a => (a.fate v4 v6).answered :=
    Traffic.run_counter RelayStats.option82Stripped (fun _ _ => Fate.count_stripped _ _)
      (fun _ => rfl) arrivals
  rw [hcount, Nat.zero_add]

/-- The counters that nobody touches. -/
structure RelayStats.SameUnused (stats stats' : RelayStats) : Prop where
  parseError : stats.packetsDroppedParseError = stats'.packetsDroppedParseError
  inserted : stats.option82Inserted = stats'.option82Inserted
  vssNotSupported : stats.vssNotSupported = stats'.vssNotSupported

theorem Fate.count_unused (fate : Fate) (stats : RelayStats) :
    (fate.count stats).SameUnused stats := by
  unfold count
  split <;> exact ⟨rfl, rfl, rfl⟩

/-- They are zero after any run. -/
theorem Traffic.run_unused (v4 : V4.Codec) (v6 : V6.Codec) (arrivals : List Arrival) :
    (run (Traffic.handle v4 v6) {} arrivals).stats.SameUnused {} := by
  refine run_induction (P := fun _ (t : Traffic) => t.stats.SameUnused {}) ⟨rfl, rfl, rfl⟩ ?_
    arrivals
  intro actions a ih
  have hcount := (a.fate v4 v6).count_unused
    (run (Traffic.handle v4 v6) {} actions).stats.countReceived
  rw [Traffic.handle_eq]
  exact ⟨hcount.parseError.trans ih.parseError, hcount.inserted.trans ih.inserted,
    hcount.vssNotSupported.trans ih.vssNotSupported⟩

/-- **Errors do not cancel out**: where spoofs are errors, true statistics are those of
datagrams that are all counted right. -/
theorem Traffic.truthful_iff_honest
    (hspoofed : ∀ a ∈ arrivals, (a.fate v4 v6).spoofed = true → (a.fate v4 v6).refused = true) :
    Truthful v4 v6 arrivals (run (Traffic.handle v4 v6) {} arrivals).stats
      ↔ ∀ a ∈ arrivals, a.Honest v4 v6 := by
  have hspoof := Traffic.run_refused v4 v6 arrivals
  have hstripped := Traffic.run_answered v4 v6 arrivals
  have hunused := Traffic.run_unused v4 v6 arrivals
  have hanswered : ∀ a ∈ arrivals, a.stripped v4 v6 = true →
      (a.fate v4 v6).answered = true := by
    intro a _ h
    obtain ⟨ctx, hfate, -⟩ := Arrival.stripped_iff.mp h
    exact Fate.answered_iff.mpr ⟨ctx, hfate⟩
  have hnever : ∀ {p : Arrival → Bool}, 0 = arrivals.countP p ↔ ∀ a ∈ arrivals, ¬ p a = true :=
    eq_comm.trans List.countP_eq_zero
  constructor
  · intro h a ha
    constructor
    · exact (countP_eq_iff_of_imp hspoofed).mp (hspoof.symm.trans h.spoof) a ha
    · exact hnever.mp (hunused.parseError.symm.trans h.parseError) a ha
    · exact hnever.mp (hunused.inserted.symm.trans h.inserted) a ha
    · exact (countP_eq_iff_of_imp hanswered).mp (hstripped.symm.trans h.stripped) a ha
    · exact hnever.mp (hunused.vssNotSupported.symm.trans h.vssNotSupported) a ha
  · intro h
    constructor
    · exact hspoof.trans ((countP_eq_iff_of_imp hspoofed).mpr fun a ha => (h a ha).spoof)
    · exact hunused.parseError.trans (hnever.mpr fun a ha => (h a ha).parseError)
    · exact hunused.inserted.trans (hnever.mpr fun a ha => (h a ha).inserted)
    · exact hstripped.trans ((countP_eq_iff_of_imp hanswered).mpr fun a ha => (h a ha).stripped)
    · exact hunused.vssNotSupported.trans (hnever.mpr fun a ha => (h a ha).vssNotSupported)

/-! ### Which datagrams are counted right -/

theorem Arrival.not_honest_of_undecoded (hfate : a.fate v4 v6 = .undecoded) :
    ¬ a.Honest v4 v6 := by
  intro h
  exact h.parseError (Fate.undecodable_iff.mpr (.inl hfate))

/-- A request: an error has to be a spoofed giaddr, and no Option 82 may be added. -/
theorem Arrival.honest_clientV4_iff {out : Outcome} (hfate : a.fate v4 v6 = .clientV4 out) :
    a.Honest v4 v6
      ↔ (∀ e, out.1 = .error e → ∃ text, e = .giaddrSpoof text)
        ∧ (out.1 = .ok true → V4.has82 v4 out.2.buffer = true → V4.has82 v4 a.data = true) := by
  obtain ⟨result, ctx⟩ := out
  have hkept : a.vssKept v4 v6 = false := by
    unfold vssKept
    rw [hfate]
    cases a <;> rfl
  have hout : (a.fate v4 v6).out = some (result, ctx) := by rw [hfate]; rfl
  constructor
  · intro h
    refine ⟨fun e he => ?_, fun hpassed hbuffer => ?_⟩
    · obtain rfl : result = .error e := he
      obtain ⟨text, ctx', hspoofed⟩ :=
        Fate.spoofed_iff.mp (h.spoof (Fate.refused_iff.mpr ⟨e, ctx, hfate⟩))
      simp only [hout, Option.some.injEq, Prod.mk.injEq, Except.error.injEq] at hspoofed
      exact ⟨text, hspoofed.1⟩
    · obtain rfl : result = .ok true := hpassed
      by_contra hdata
      exact h.inserted (Arrival.inserted_iff.mpr ⟨ctx, hfate, by simpa using hdata, hbuffer⟩)
  · intro h
    obtain ⟨herror, hpassed⟩ := h
    constructor
    · intro hrefused
      obtain ⟨e, ctx', hfate'⟩ := Fate.refused_iff.mp hrefused
      obtain ⟨rfl, rfl⟩ : result = .error e ∧ ctx = ctx' := by simpa [hfate] using hfate'
      obtain ⟨text, rfl⟩ := herror e rfl
      exact Fate.spoofed_iff.mpr ⟨text, ctx, hout⟩
    · intro hundecodable
      rcases Fate.undecodable_iff.mp hundecodable with hundecoded | ⟨text, ctx', hparse⟩
      · simp [hfate] at hundecoded
      · obtain ⟨rfl, -⟩ : result = .error (.parse text) ∧ ctx = ctx' := by simpa [hout] using hparse
        simpa using herror _ rfl
    · intro hinserted
      obtain ⟨ctx', hfate', hdata, hbuffer⟩ := Arrival.inserted_iff.mp hinserted
      obtain ⟨rfl, rfl⟩ : result = .ok true ∧ ctx = ctx' := by simpa [hfate] using hfate'
      rw [hpassed rfl hbuffer] at hdata
      simp at hdata
    · intro hanswered
      obtain ⟨ctx', hfate'⟩ := Fate.answered_iff.mp hanswered
      simp [hfate] at hfate'
    · simp [hkept]

/-- A reply that is let through: it has to lose an Option 82, and no VSS-Control may be
left in that. -/
theorem Arrival.honest_serverV4_iff {ctx : PipelineContext}
    (hfate : a.fate v4 v6 = .serverV4 (.ok true, ctx)) :
    a.Honest v4 v6
      ↔ V4.has82 v4 a.data = true ∧ V4.has82 v4 ctx.buffer = false
        ∧ a.vssKept v4 v6 = false := by
  constructor
  · intro h
    obtain ⟨ctx', hfate', hdata, hbuffer⟩ :=
      Arrival.stripped_iff.mp (h.stripped (Fate.answered_iff.mpr ⟨ctx, hfate⟩))
    obtain rfl : ctx = ctx' := by simpa [hfate] using hfate'
    exact ⟨hdata, hbuffer, by simpa using h.vssNotSupported⟩
  · intro h
    obtain ⟨hdata, hbuffer, hkept⟩ := h
    constructor
    · intro hrefused
      obtain ⟨e, ctx', hfate'⟩ := Fate.refused_iff.mp hrefused
      simp [hfate] at hfate'
    · simp [Fate.undecodable_iff, hfate, Fate.out]
    · simp [Arrival.inserted_iff, hfate]
    · exact fun _ => Arrival.stripped_iff.mpr ⟨ctx, hfate, hdata, hbuffer⟩
    · simp [hkept]

/-- A DHCPv6 datagram only has to be decoded. -/
theorem Arrival.honest_v6_iff {task : V6Task} {localAddr : Option SocketAddr} {data : Bytes}
    {src : SocketAddr} :
    (Arrival.v6 task localAddr data src).Honest v4 v6
      ↔ ¬ (task.fate v6 localAddr data src).undecodable = true := by
  have hother : ∀ out, task.fate v6 localAddr data src ≠ .clientV4 out
      ∧ task.fate v6 localAddr data src ≠ .serverV4 out := by
    intro out
    unfold V6Task.fate
    dsimp only
    split
    · simp
    · split
      · simp
      · split <;> simp
  constructor
  · exact fun h => h.parseError
  · intro h
    constructor
    · intro hrefused
      obtain ⟨e, ctx, hfate⟩ := Fate.refused_iff.mp hrefused
      exact absurd hfate (hother _).1
    · exact h
    · intro hinserted
      obtain ⟨ctx, hfate, -⟩ := Arrival.inserted_iff.mp hinserted
      exact absurd hfate (hother _).1
    · intro hanswered
      obtain ⟨ctx, hfate⟩ := Fate.answered_iff.mp hanswered
      exact absurd hfate (hother _).2
    · simp [vssKept]

/-! ### The datagrams that are counted right -/

/-- A datagram that the statistics are right about. A DHCPv4 request is one that does not
get its Option 82 here; a DHCPv4 reply is one that loses its Option 82 here, without
VSS-Control while VSS is enabled. DHCPv6 datagrams, and what Relay-replies carry, are
decoded. -/
def Arrival.Reported (v4 : V4.Codec) (v6 : V6.Codec) : Arrival → Prop
  | .v4 task data _ =>
    ∃ msg, v4.decode data = .ok msg
      ∧ if V4.isClient msg then
          task.ctx.enableOption82 = true → msg.giaddr = .unspecified → msg.option82.isSome = true
        else
          task.ctx.enableOption82 = true ∧ msg.option82.isSome = true
            ∧ (task.ctx.vssEnabled = true →
              msg.option82.bind (·.get? V4.RelayCode.virtualSubnetControl) = none)
  | .v6 _ _ data _ =>
    ∃ msg, v6.decode data = .ok msg
      ∧ (data.head?.getD 0 = V6.RelayFwd.relayRepl →
          ∃ payload inner, V6.RelayFwd.decapsulate data = .ok payload
            ∧ v6.decode payload = .ok inner)

/-- The datagram arrives at a task that was spawned for an interface of the
configuration. -/
def Arrival.SpawnedBy (config : RelayConfig) : Arrival → Prop
  | .v4 task _ _ => ∃ iface ∈ config.interfaces, ∃ bind, V4Task.spawn config bind iface = .ok task
  | .v6 task _ _ _ => ∃ iface ∈ config.interfaces, ∃ bind, V6Task.spawn config bind iface = .ok task

theorem V4.has82_of_decode {data : Bytes} {msg : V4.Message} (h : v4.decode data = .ok msg) :
    V4.has82 v4 data = msg.option82.isSome := by
  rw [has82, h]

theorem V4.hasVssControl_of_decode {data : Bytes} {msg : V4.Message}
    (h : v4.decode data = .ok msg) :
    V4.hasVssControl v4 data
      = (msg.option82.bind (·.get? V4.RelayCode.virtualSubnetControl)).isSome := by
  rw [hasVssControl, h]

section V4

variable {task : V4Task} {data : Bytes} {src : SocketAddr} {msg : V4.Message}

theorem Arrival.fate_of_undecodable {e : String} (hdec : v4.decode data = .error e) :
    (Arrival.v4 task data src).fate v4 v6 = .undecoded := by
  rw [fate, V4Task.fate, hdec]

theorem Arrival.fate_of_client (hdec : v4.decode data = .ok msg)
    (hclient : V4.isClient msg = true) :
    (Arrival.v4 task data src).fate v4 v6
      = .clientV4 ((V4.buildRequest v4 task.requestArgs).execute (.new data src task.ifaceName)) := by
  rw [fate, V4Task.fate, hdec]
  exact if_pos hclient

theorem Arrival.fate_of_server (hdec : v4.decode data = .ok msg)
    (hclient : V4.isClient msg = false) :
    (Arrival.v4 task data src).fate v4 v6
      = .serverV4 ((V4.buildReply v4 (V4.expectedSubOpts msg) task.vss
          task.ctx.enableOption82).execute (.new data src task.ifaceName)) := by
  rw [fate, V4Task.fate, hdec]
  exact if_neg (by simp [hclient])

/-- A task that has no id to insert ends a first-relay request in an error. -/
theorem Arrival.fate_of_no_ids (hc4 : v4.Lawful) (hon : task.ctx.enableOption82 = true)
    (hids : task.ctx.circuitId = none ∧ task.ctx.remoteId = none)
    (hdec : v4.decode data = .ok msg) (hclient : V4.isClient msg = true)
    (hg : msg.giaddr = .unspecified) (h82 : msg.option82 = none) :
    ∃ text ctx, (Arrival.v4 task data src).fate v4 v6
      = .clientV4 (.error (.config text), ctx) := by
  obtain ⟨text, hout⟩ : ∃ text, ((V4.buildRequest v4 task.requestArgs).execute
      (.new data src task.ifaceName)).1 = .error (.config text) :=
    V4.request_of_no_ids hc4 hdec hon hids hg h82
  rw [Arrival.fate_of_client hdec hclient]
  exact ⟨text, _, congrArg Fate.clientV4 (Prod.ext hout rfl)⟩

/-- A request is counted right unless an Option 82 is to be added to it: then there is no
counter for that, or, without an id to put there, the wrong one. -/
theorem V4Task.client_honest_iff (hc4 : v4.Lawful) (hvss : task.requestArgs.VssAccepted)
    (hdec : v4.decode data = .ok msg) (hclient : V4.isClient msg = true) :
    (Arrival.v4 task data src).Honest v4 v6
      ↔ (task.ctx.enableOption82 = true → msg.giaddr = .unspecified →
          msg.option82.isSome = true) := by
  rw [Arrival.honest_clientV4_iff (Arrival.fate_of_client hdec hclient)]
  have hdata : V4.has82 v4 (Arrival.v4 task data src).data = msg.option82.isSome :=
    V4.has82_of_decode hdec
  by_cases hrelays : task.requestArgs.Relays false msg
  · have hdelivers : Delivers v4 ((V4.buildRequest v4 task.requestArgs).execute
        (.new data src task.ifaceName)) task.serverAddr (task.requestArgs.relayed msg) :=
      V4.request_relays hc4 hvss hdec hrelays
    have hrelayed := task.requestArgs.option82_relayed msg
    rw [hdata, V4.has82_of_decode hdelivers.buffer, hdelivers.passed, hrelayed]
    constructor
    · intro h hon hg
      exact h.2 rfl (.inr ⟨hg, hon⟩)
    · intro h
      refine ⟨fun e he => by simp at he, fun _ h82 => ?_⟩
      rcases h82 with h82 | ⟨hg, hon⟩
      · exact h82
      · exact h hon hg
  · rcases V4.request_dropped hc4 hdec hrelays src task.ifaceName with
      ⟨-, h82, hout⟩ | ⟨hg, h82, hon, text, hout⟩ | ⟨hg, text, hout⟩
    · -- an Option 82 from an untrusted circuit
      exact ⟨fun _ _ _ => h82, fun _ => ⟨fun e he => by simp [hout] at he, by simp [hout]⟩⟩
    · -- no id to put into an Option 82
      constructor
      · intro h
        obtain ⟨text', herr⟩ := h.1 _ hout
        simp at herr
      · intro h
        have hsome := h hon hg
        simp [h82] at hsome
    · -- a spoofed giaddr
      refine ⟨fun _ _ hzero => absurd hzero hg, fun _ => ⟨fun e he => ⟨text, ?_⟩, ?_⟩⟩
      · exact (Except.error.inj (hout.symm.trans he)).symm
      · simp [hout]

/-- A reply is always passed on, and counted as one that was stripped. -/
theorem V4Task.server_honest_iff (hc4 : v4.Lawful) (hdec : v4.decode data = .ok msg)
    (hclient : V4.isClient msg = false) :
    (Arrival.v4 task data src).Honest v4 v6
      ↔ task.ctx.enableOption82 = true ∧ msg.option82.isSome = true
        ∧ (task.ctx.vssEnabled = true →
          msg.option82.bind (·.get? V4.RelayCode.virtualSubnetControl) = none) := by
  have hdelivers : Delivers v4 _ _ (task.replyMsg msg) := V4Task.reply_delivers hc4 hdec src
  have hfate : (Arrival.v4 task data src).fate v4 v6 = _ := Arrival.fate_of_server hdec hclient
  rcases hrun : (V4.buildReply v4 (V4.expectedSubOpts msg) task.vss
    task.ctx.enableOption82).execute (.new data src task.ifaceName) with ⟨result, ctx⟩
  rw [hrun] at hdelivers hfate
  obtain rfl : result = .ok true := hdelivers.passed
  have hdata : V4.has82 v4 (Arrival.v4 task data src).data = msg.option82.isSome :=
    V4.has82_of_decode hdec
  have hbuffer : V4.has82 v4 ctx.buffer = (task.replyMsg msg).option82.isSome :=
    V4.has82_of_decode hdelivers.buffer
  have hkept : (Arrival.v4 task data src).vssKept v4 v6 = (task.ctx.vssEnabled
      && (msg.option82.bind (·.get? V4.RelayCode.virtualSubnetControl)).isSome) := by
    rw [← V4.hasVssControl_of_decode hdec]
    unfold Arrival.vssKept
    rw [hfate]
  rw [Arrival.honest_serverV4_iff hfate, hdata, hbuffer, hkept, replyMsg]
  cases hon : task.ctx.enableOption82 with
  | false =>
      constructor
      · intro h
        have hkept82 : msg.option82.isSome = false := h.2.1
        simp [hkept82] at h
      · intro h
        simp at h
  | true => simp

theorem V4Task.honest_iff_reported (hc4 : v4.Lawful) (hvss : task.requestArgs.VssAccepted) :
    (Arrival.v4 task data src).Honest v4 v6 ↔ (Arrival.v4 task data src).Reported v4 v6 := by
  cases hdec : v4.decode data with
  | error e =>
      have hfate : (Arrival.v4 task data src).fate v4 v6 = .undecoded :=
        Arrival.fate_of_undecodable hdec
      simp [Arrival.not_honest_of_undecoded hfate, Arrival.Reported, hdec]
  | ok msg =>
      cases hclient : V4.isClient msg with
      | true => simp [client_honest_iff hc4 hvss hdec hclient, Arrival.Reported, hdec, hclient]
      | false => simp [server_honest_iff hc4 hdec hclient, Arrival.Reported, hdec, hclient]

end V4

section V6

variable {task : V6Task} {localAddr : Option SocketAddr} {data : Bytes} {src : SocketAddr}

/-- A Relay-reply is passed on exactly if it and what it carries can be decoded, and ends
in a parse error otherwise. -/
theorem V6.reply_result (ctx : PipelineContext) (dest : SocketAddr) (cfg : Option VssConfig) :
    ((∃ msg payload inner, v6.decode ctx.buffer = .ok msg
        ∧ V6.RelayFwd.decapsulate ctx.buffer = .ok payload ∧ v6.decode payload = .ok inner)
      ∧ ((V6.buildReply v6 dest cfg).execute ctx).1 = .ok true)
    ∨ ((¬ ∃ msg payload inner, v6.decode ctx.buffer = .ok msg
        ∧ V6.RelayFwd.decapsulate ctx.buffer = .ok payload ∧ v6.decode payload = .ok inner)
      ∧ ∃ text, ((V6.buildReply v6 dest cfg).execute ctx).1 = .error (.parse text)) := by
  cases hdec : v6.decode ctx.buffer with
  | error e =>
      exact .inr ⟨by simp, _,
        congrArg Prod.fst (Stages.execute_cons_fail (V6.parseStage_fail hdec) _)⟩
  | ok msg =>
      rw [V6.reply_execute hdec]
      cases hpayload : V6.RelayFwd.decapsulate ctx.buffer with
      | error e =>
          obtain ⟨text, rfl⟩ := V6.RelayFwd.decapsulate_error hpayload
          exact .inr ⟨by simp, text,
            congrArg Prod.fst (Stages.execute_cons_fail (V6.relayReplyStage_fail hpayload) _)⟩
      | ok payload =>
          rw [Stages.execute_cons_pass (V6.relayReplyStage_pass hpayload)]
          let unwrapped : PipelineContext := { ctx with buffer := payload }
          cases hinner : v6.decode payload with
          | error e =>
              have hextract : (V6.interfaceIdExtractStage v6).process unwrapped = _ :=
                V6.interfaceIdExtractStage_fail hinner
              exact .inr ⟨by simp [hinner], _,
                congrArg Prod.fst (Stages.execute_cons_fail hextract _)⟩
          | ok inner =>
              obtain ⟨bag, hextract⟩ : ∃ bag, (V6.interfaceIdExtractStage v6).process unwrapped
                  = (.ok true, { unwrapped with metadata := bag }) :=
                V6.interfaceIdExtractStage_pass hinner
              refine .inl ⟨⟨msg, payload, inner, rfl, rfl, hinner⟩, ?_⟩
              rw [Stages.execute_cons_pass hextract, Stages.execute_singleton]
              rfl

/-- **What becomes of a DHCPv6 datagram**: it is passed on or not for the relay, if it and
what it carries can be decoded; otherwise it is not decoded or ends in a parse error. -/
theorem V6Task.fate_cases (v4 : V4.Codec) (hc6 : v6.Lawful)
    (haccepted : ∀ cfg ∈ task.vss, cfg.Accepted) (localAddr : Option SocketAddr) (data : Bytes)
    (src : SocketAddr) :
    ((Arrival.v6 task localAddr data src).Reported v4 v6
        ∧ (task.fate v6 localAddr data src = .ignored
          ∨ ∃ ctx, (task.fate v6 localAddr data src).out = some (.ok true, ctx)))
      ∨ (¬ (Arrival.v6 task localAddr data src).Reported v4 v6
        ∧ (task.fate v6 localAddr data src = .undecoded
          ∨ ∃ text ctx, (task.fate v6 localAddr data src).out
            = some (.error (.parse text), ctx))) := by
  by_cases hhead : data.head?.getD 0 = V6.RelayFwd.relayRepl
  · have hfate : task.fate v6 localAddr data src
        = .serverV6 ((V6.buildReply v6 src task.vss).execute (.new data src task.ifaceName)) :=
      if_pos hhead
    rw [hfate]
    rcases V6.reply_result (.new data src task.ifaceName) src task.vss with
      ⟨⟨msg, payload, inner, hdec, hpayload, hinner⟩, hout⟩ | ⟨hnone, text, hout⟩
    · exact .inl ⟨⟨msg, hdec, fun _ => ⟨payload, inner, hpayload, hinner⟩⟩,
        .inr ⟨_, congrArg some (Prod.ext hout rfl)⟩⟩
    · refine .inr ⟨fun h => hnone ?_, .inr ⟨text, _, congrArg some (Prod.ext hout rfl)⟩⟩
      obtain ⟨msg, hdec, hunwraps⟩ := h
      obtain ⟨payload, inner, hpayload, hinner⟩ := hunwraps hhead
      exact ⟨msg, payload, inner, hdec, hpayload, hinner⟩
  · cases hdec : v6.decode data with
    | error e =>
        have hfate : task.fate v6 localAddr data src = .undecoded := by
          simp only [V6Task.fate, if_neg hhead, hdec]
        exact .inr ⟨by simp [Arrival.Reported, hdec], .inl hfate⟩
    | ok msg =>
        have hfate : task.fate v6 localAddr data src
            = if V6.isClient msg then
                .clientV6 ((V6.buildRequest v6 (task.requestArgs localAddr src)).execute
                  (.new data src task.ifaceName))
              else .ignored := by
          simp only [V6Task.fate, if_neg hhead, hdec]
        refine .inl ⟨⟨msg, hdec, fun h => absurd h hhead⟩, ?_⟩
        rw [hfate]
        split
        · have hvss : (task.requestArgs localAddr src).VssAccepted := haccepted
          obtain ⟨ctx, -, hrun, -⟩ := V6.request_run hc6 hvss hdec src task.ifaceName
          exact .inr ⟨ctx, congrArg some hrun⟩
        · exact .inl rfl

theorem V6Task.honest_iff_reported (hc6 : v6.Lawful)
    (haccepted : ∀ cfg ∈ task.vss, cfg.Accepted) :
    (Arrival.v6 task localAddr data src).Honest v4 v6
      ↔ (Arrival.v6 task localAddr data src).Reported v4 v6 := by
  rw [Arrival.honest_v6_iff, Fate.undecodable_iff]
  rcases V6Task.fate_cases v4 hc6 haccepted localAddr data src with
    ⟨hreported, hfate | ⟨ctx, hout⟩⟩ | ⟨hreported, hfate⟩
  · simp [hreported, hfate, Fate.out]
  · have hdecoded : task.fate v6 localAddr data src ≠ .undecoded := by
      intro hundecoded
      simp [hundecoded, Fate.out] at hout
    simp [hreported, hout, hdecoded]
  · simp [hreported, hfate]

end V6

section

variable {config : RelayConfig} {agent : RelayAgent}

/-- A datagram at a task of the agent. -/
theorem Arrival.honest_iff_reported (hc4 : v4.Lawful) (hc6 : v6.Lawful)
    (hnew : RelayAgent.new config = .ok agent) (hspawned : a.SpawnedBy config) :
    a.Honest v4 v6 ↔ a.Reported v4 v6 := by
  obtain ⟨-, hvalid⟩ := RelayAgent.new_inv hnew
  cases a with
  | v4 task data src =>
      obtain ⟨iface, -, bind, hspawn⟩ := hspawned
      exact V4Task.honest_iff_reported hc4 (V4Task.spawn_vss hvalid hspawn)
  | v6 task localAddr data src =>
      obtain ⟨iface, -, bind, hspawn⟩ := hspawned
      exact V6Task.honest_iff_reported hc6 (V6Task.spawn_vss hvalid hspawn)

/-- A spoofed giaddr is found by the DHCPv4 request pipeline, and by no other. -/
theorem Arrival.refused_of_spoofed (hc4 : v4.Lawful) (hc6 : v6.Lawful)
    (hnew : RelayAgent.new config = .ok agent) (hspawned : a.SpawnedBy config)
    (hspoofed : (a.fate v4 v6).spoofed = true) : (a.fate v4 v6).refused = true := by
  obtain ⟨text, ctx, hout⟩ := Fate.spoofed_iff.mp hspoofed
  cases a with
  | v4 task data src =>
      cases hdec : v4.decode data with
      | error e => simp [Arrival.fate_of_undecodable hdec, Fate.out] at hout
      | ok msg =>
          cases hclient : V4.isClient msg with
          | true =>
              rw [Arrival.fate_of_client hdec hclient] at hout ⊢
              exact Fate.refused_iff.mpr ⟨_, ctx, congrArg Fate.clientV4 (Option.some.inj hout)⟩
          | false =>
              have hdelivers : Delivers v4 _ _ (task.replyMsg msg) :=
                V4Task.reply_delivers hc4 hdec src
              rw [Arrival.fate_of_server hdec hclient] at hout
              have hpassed := hdelivers.passed
              rw [Option.some.inj hout] at hpassed
              simp at hpassed
  | v6 task localAddr data src =>
      obtain ⟨-, hvalid⟩ := RelayAgent.new_inv hnew
      obtain ⟨iface, -, bind, hspawn⟩ := hspawned
      have hout : (task.fate v6 localAddr data src).out = _ := hout
      rcases V6Task.fate_cases v4 hc6 (V6Task.spawn_vss hvalid hspawn) localAddr data src with
        ⟨-, hfate | ⟨ctx', hpassed⟩⟩ | ⟨-, hfate | ⟨text', ctx', hparse⟩⟩
      · simp [hfate, Fate.out] at hout
      · simp [hpassed] at hout
      · simp [hfate, Fate.out] at hout
      · simp [hparse] at hout

/-- **The statistics tell the truth about a run exactly if they do about each of its
datagrams.** -/
theorem Traffic.truthful_iff (hc4 : v4.Lawful) (hc6 : v6.Lawful)
    (hnew : RelayAgent.new config = .ok agent)
    (hspawned : ∀ a ∈ arrivals, a.SpawnedBy config) :
    Truthful v4 v6 arrivals (run (Traffic.handle v4 v6) {} arrivals).stats
      ↔ ∀ a ∈ arrivals, a.Reported v4 v6 := by
  rw [Traffic.truthful_iff_honest fun a ha =>
    Arrival.refused_of_spoofed hc4 hc6 hnew (hspawned a ha)]
  exact forall₂_congr fun a ha => Arrival.honest_iff_reported hc4 hc6 hnew (hspawned a ha)

end

end

/-- The statistics are right about an offer with an Option 82. -/
theorem sampleOffer_truthful :
    Truthful V4.Wire.wire V6.Wire.wire
      [.v4 (sampleTask (some "eth0") none) (V4.Wire.writeMessage V4.sampleOffer)
        (.new (.v4 ⟨192, 0, 2, 1⟩) 67)]
      (run (Traffic.handle V4.Wire.wire V6.Wire.wire) {}
        [.v4 (sampleTask (some "eth0") none) (V4.Wire.writeMessage V4.sampleOffer)
          (.new (.v4 ⟨192, 0, 2, 1⟩) 67)]).stats := by
  have hdec : V4.Wire.wire.decode (V4.Wire.writeMessage V4.sampleOffer) = .ok V4.sampleOffer :=
    V4.Wire.decode_writeMessage (by decide +kernel)
  refine (Traffic.truthful_iff V4.Wire.wire_lawful V6.Wire.wire_lawful
    (sampleAgent_new (some "eth0") none) ?_).mpr ?_
  · intro a ha
    obtain rfl := List.mem_singleton.mp ha
    exact ⟨sampleInterface, List.mem_cons_self, _, sampleInterface_task _⟩
  · intro a ha
    obtain rfl := List.mem_singleton.mp ha
    exact ⟨V4.sampleOffer, hdec, rfl, rfl, fun hvss => absurd hvss (by decide)⟩

/-- A discover at an agent without ids, and a datagram that is no message. -/
def sampleArrivals : List Arrival :=
  [.v4 (sampleTask none none) (V4.Wire.writeMessage V4.sampleDiscover) V4.sampleClient,
    .v4 (sampleTask none none) [1, 2, 3] V4.sampleClient]

/-- One spoofed giaddr is counted, and there was none; no parse error is counted, and there
was one. -/
theorem sampleArrivals_miscounted :
    V4.Wire.wire.Lawful ∧ V6.Wire.wire.Lawful
      ∧ RelayAgent.new (sampleConfig none none) = .ok (sampleAgent none none)
      ∧ (∀ a ∈ sampleArrivals, a.SpawnedBy (sampleConfig none none))
      ∧ (run (Traffic.handle V4.Wire.wire V6.Wire.wire) {} sampleArrivals).stats.packetsDroppedSpoof
        = 1
      ∧ sampleArrivals.countP (fun a => (a.fate V4.Wire.wire V6.Wire.wire).spoofed) = 0
      ∧ (run (Traffic.handle V4.Wire.wire V6.Wire.wire) {}
          sampleArrivals).stats.packetsDroppedParseError = 0
      ∧ sampleArrivals.countP (fun a => (a.fate V4.Wire.wire V6.Wire.wire).undecodable) = 1 := by
  refine ⟨V4.Wire.wire_lawful, V6.Wire.wire_lawful, rfl, ?_, ?_⟩
  · intro a ha
    rcases List.mem_pair.mp ha with rfl | rfl
    · exact ⟨sampleInterface, List.mem_cons_self, _, sampleInterface_task _⟩
    · exact ⟨sampleInterface, List.mem_cons_self, _, sampleInterface_task _⟩
  · obtain ⟨text, ctx, hrefused⟩ : ∃ text ctx, (Arrival.v4 (sampleTask none none)
        (V4.Wire.writeMessage V4.sampleDiscover) V4.sampleClient).fate V4.Wire.wire V6.Wire.wire
          = .clientV4 (.error (.config text), ctx) :=
      Arrival.fate_of_no_ids V4.Wire.wire_lawful rfl ⟨rfl, rfl⟩ V4.sampleDiscover_decode rfl rfl rfl
    have hundecoded : (Arrival.v4 (sampleTask none none) [1, 2, 3] V4.sampleClient).fate
        V4.Wire.wire V6.Wire.wire = .undecoded := Arrival.fate_of_undecodable rfl
    simp only [sampleArrivals, run, List.foldl_cons, List.foldl_nil, Traffic.handle_eq, hrefused,
      hundecoded, List.countP_cons, List.countP_nil]
    exact ⟨rfl, rfl, rfl, rfl⟩

end DhcpRelay
