import DhcpRelay.Library.Runs
import DhcpRelay.AgentV4Loop
import DhcpRelay.AgentV6
import DhcpRelay.Destination

/-!
# DhcpRelay.AgentRuns

**Runs of the receive loops.** The tasks of an agent share its statistics; a run is any
sequence of datagrams, each at a DHCPv4 or a DHCPv6 task. What becomes of a datagram, its
`Fate`, does not depend on the statistics: it is not decoded, or not for the relay, or it
ends with the outcome of one of the four pipelines. All that a loop does follows from the
fate (`Traffic.handle_eq`).
-/

namespace DhcpRelay

open DhcpRelay.Library

/-- A datagram that arrives at a task. -/
inductive Arrival
  | v4 (task : V4Task) (data : Bytes) (src : SocketAddr)
  | v6 (task : V6Task) (localAddr : Option SocketAddr) (data : Bytes) (src : SocketAddr)

/-- What an agent has counted and sent. -/
structure Traffic where
  stats : RelayStats := {}
  sent : List Datagram := []

/-- A receive loop handles one datagram. -/
def Traffic.handle (v4 : V4.Codec) (v6 : V6.Codec) (t : Traffic) (a : Arrival) : Traffic :=
  let (stats, sent) :=
    match a with
    | .v4 task data src => task.receive v4 t.stats data src
    | .v6 task localAddr data src => task.receive v6 localAddr t.stats data src
  { stats := stats, sent := t.sent ++ sent.toList }

/-! ### Fates -/

/-- The result of a pipeline, and the context it leaves behind. -/
abbrev Outcome := RelayResult Bool × PipelineContext

/-- What becomes of a datagram. -/
inductive Fate
  | undecoded
  | ignored
  | clientV4 (out : Outcome)
  | serverV4 (out : Outcome)
  | clientV6 (out : Outcome)
  | serverV6 (out : Outcome)

namespace Fate

/-- The outcome of the pipeline, if one was run. -/
def out : Fate → Option Outcome
  | undecoded | ignored => none
  | clientV4 out | serverV4 out | clientV6 out | serverV6 out => some out

/-- The pipeline let the packet through. -/
def forwarded (fate : Fate) : Bool :=
  match fate.out with
  | some (.ok true, _) => true
  | _ => false

/-- What is sent. -/
def sent (fate : Fate) : Option Datagram :=
  match fate.out with
  | some (.ok true, ctx) => ctx.outgoing
  | _ => none

/-- What a handler counts. -/
def count : Fate → RelayStats → RelayStats
  | clientV4 (.ok true, _), stats => stats.countForwarded
  | clientV4 (.error _, _), stats => stats.countDroppedSpoof
  | serverV4 (.ok true, _), stats => stats.countForwarded.countStripped
  | clientV6 (.ok true, _), stats => stats.countForwarded
  | serverV6 (.ok true, _), stats => stats.countForwarded
  | _, stats => stats

end Fate

/-- What becomes of a datagram at a DHCPv4 task. -/
def V4Task.fate (proto : V4.Codec) (task : V4Task) (data : Bytes) (src : SocketAddr) : Fate :=
  match proto.decode data with
  | .error _ => .undecoded
  | .ok msg =>
    let ctx := PipelineContext.new data src task.ifaceName
    if V4.isClient msg then .clientV4 ((V4.buildRequest proto task.requestArgs).execute ctx)
    else
      .serverV4 ((V4.buildReply proto (V4.expectedSubOpts msg) task.vss
        task.ctx.enableOption82).execute ctx)

/-- What becomes of a datagram at a DHCPv6 task. -/
def V6Task.fate (proto : V6.Codec) (task : V6Task) (localAddr : Option SocketAddr) (data : Bytes)
    (src : SocketAddr) : Fate :=
  let ctx := PipelineContext.new data src task.ifaceName
  if data.head?.getD 0 = V6.RelayFwd.relayRepl then
    .serverV6 ((V6.buildReply proto src task.vss).execute ctx)
  else
    match proto.decode data with
    | .error _ => .undecoded
    | .ok msg =>
      if V6.isClient msg then
        .clientV6 ((V6.buildRequest proto (task.requestArgs localAddr src)).execute ctx)
      else .ignored

namespace Arrival

/-- What becomes of a datagram. -/
def fate (v4 : V4.Codec) (v6 : V6.Codec) : Arrival → Fate
  | .v4 task data src => task.fate v4 data src
  | .v6 task localAddr data src => task.fate v6 localAddr data src

end Arrival

section

variable {v4 : V4.Codec} {v6 : V6.Codec}

theorem V4Task.receive_eq (task : V4Task) (stats : RelayStats) (data : Bytes)
    (src : SocketAddr) :
    task.receive v4 stats data src
      = ((task.fate v4 data src).count stats.countReceived, (task.fate v4 data src).sent) := by
  unfold receive fate
  cases v4.decode data with
  | error e => rfl
  | ok msg =>
      dsimp only
      split
      · unfold handleV4Client
        rcases (V4.buildRequest v4 task.requestArgs).execute
          (.new data src task.ifaceName) with ⟨_ | _ | _, ctx⟩ <;> rfl
      · unfold handleV4Server
        rcases (V4.buildReply v4 (V4.expectedSubOpts msg) task.vss task.ctx.enableOption82).execute
          (.new data src task.ifaceName) with ⟨_ | _ | _, ctx⟩ <;> rfl

theorem V6Task.receive_eq (task : V6Task) (localAddr : Option SocketAddr) (stats : RelayStats)
    (data : Bytes) (src : SocketAddr) :
    task.receive v6 localAddr stats data src
      = ((task.fate v6 localAddr data src).count stats.countReceived,
        (task.fate v6 localAddr data src).sent) := by
  unfold receive fate
  dsimp only
  split
  · unfold handleV6Server
    rcases (V6.buildReply v6 src task.vss).execute
      (.new data src task.ifaceName) with ⟨_ | _ | _, ctx⟩ <;> rfl
  · cases v6.decode data with
    | error e => rfl
    | ok msg =>
        dsimp only
        split
        · unfold handleV6Client requestArgs
          dsimp only
          rcases (V6.buildRequest v6 _).execute
            (.new data src task.ifaceName) with ⟨_ | _ | _, ctx⟩ <;> rfl
        · rfl

/-- **All that a loop does with a datagram follows from its fate.** -/
theorem Traffic.handle_eq (t : Traffic) (a : Arrival) :
    t.handle v4 v6 a = {
      stats := (a.fate v4 v6).count t.stats.countReceived
      sent := t.sent ++ (a.fate v4 v6).sent.toList } := by
  cases a with
  | v4 task data src => rw [handle, V4Task.receive_eq]; rfl
  | v6 task localAddr data src => rw [handle, V6Task.receive_eq]; rfl

/-- A counter that goes up with each datagram in `p`, and only with these. -/
theorem Traffic.run_counter (c : RelayStats → Nat) {p : Arrival → Bool}
    (h : ∀ a stats, c ((a.fate v4 v6).count stats) = c stats + if p a then 1 else 0)
    (hreceived : ∀ stats : RelayStats, c stats.countReceived = c stats) (arrivals : List Arrival) :
    c (run (Traffic.handle v4 v6) {} arrivals).stats = c {} + arrivals.countP p := by
  refine run_countP (c := fun t : Traffic => c t.stats) (fun t a => ?_) arrivals
  rw [Traffic.handle_eq]
  exact (h a _).trans (by rw [hreceived])

/-! ### Sending -/

/-- A pipeline has a destination for a datagram exactly if it lets it through. -/
theorem Arrival.passed_iff_dstAddr {a : Arrival} {out : Outcome}
    (h : (a.fate v4 v6).out = some out) : out.1 = .ok true ↔ out.2.dstAddr.isSome := by
  cases a with
  | v4 task data src =>
      simp only [fate, V4Task.fate] at h
      split at h
      · simp [Fate.out] at h
      · split at h
        · obtain rfl := Option.some.inj h
          exact V4.request_passed_iff_dstAddr v4 _ rfl
        · obtain rfl := Option.some.inj h
          exact V4.reply_passed_iff_dstAddr v4 _ _ _ rfl
  | v6 task localAddr data src =>
      simp only [fate, V6Task.fate] at h
      split at h
      · obtain rfl := Option.some.inj h
        exact V6.reply_passed_iff_dstAddr v6 _ _ rfl
      · split at h
        · simp [Fate.out] at h
        · split at h
          · obtain rfl := Option.some.inj h
            exact V6.request_passed_iff_dstAddr v6 _ rfl
          · simp [Fate.out] at h

/-- So one datagram is sent for each that is let through. -/
theorem Arrival.length_sent (a : Arrival) :
    (a.fate v4 v6).sent.toList.length = if (a.fate v4 v6).forwarded then 1 else 0 := by
  unfold Fate.sent Fate.forwarded
  cases hout : (a.fate v4 v6).out with
  | none => rfl
  | some out =>
      have hdst := Arrival.passed_iff_dstAddr hout
      obtain ⟨result, ctx⟩ := out
      match result with
      | .ok true =>
          obtain ⟨dst, hdst⟩ := Option.isSome_iff_exists.mp (hdst.mp rfl)
          have hdst : ctx.dstAddr = some dst := hdst
          simp [PipelineContext.outgoing, hdst]
      | .ok false => rfl
      | .error e => rfl

theorem Fate.count_received (fate : Fate) (stats : RelayStats) :
    (fate.count stats).packetsReceived = stats.packetsReceived := by
  unfold count
  split <;> rfl

theorem Fate.count_forwarded (fate : Fate) (stats : RelayStats) :
    (fate.count stats).packetsForwarded
      = stats.packetsForwarded + if fate.forwarded then 1 else 0 := by
  cases fate with
  | undecoded | ignored => rfl
  | clientV4 out | serverV4 out | clientV6 out | serverV6 out =>
      rcases out with ⟨_ | _ | _, ctx⟩ <;> rfl

theorem Traffic.run_forwarded (arrivals : List Arrival) :
    (run (Traffic.handle v4 v6) {} arrivals).stats.packetsForwarded
      = arrivals.countP fun a => (a.fate v4 v6).forwarded := by
  have hcount : (run (Traffic.handle v4 v6) {} arrivals).stats.packetsForwarded
      = 0 + arrivals.countP fun a => (a.fate v4 v6).forwarded :=
    Traffic.run_counter RelayStats.packetsForwarded (fun _ _ => Fate.count_forwarded _ _)
      (fun _ => rfl) arrivals
  rw [hcount, Nat.zero_add]

theorem Traffic.run_sent (arrivals : List Arrival) :
    (run (Traffic.handle v4 v6) {} arrivals).sent.length
      = arrivals.countP fun a => (a.fate v4 v6).forwarded := by
  have hcount : (run (Traffic.handle v4 v6) {} arrivals).sent.length
      = 0 + arrivals.countP fun a => (a.fate v4 v6).forwarded := by
    refine run_countP (c := fun t : Traffic => t.sent.length) (fun t a => ?_) arrivals
    rw [Traffic.handle_eq]
    dsimp only
    rw [List.length_append, Arrival.length_sent]
  rw [hcount, Nat.zero_add]

theorem Traffic.run_received (arrivals : List Arrival) :
    (run (Traffic.handle v4 v6) {} arrivals).stats.packetsReceived = arrivals.length := by
  have hcount : (run (Traffic.handle v4 v6) {} arrivals).stats.packetsReceived
      = 0 + arrivals.countP fun _ => true := by
    refine run_countP (c := fun t : Traffic => t.stats.packetsReceived) (fun t a => ?_) arrivals
    rw [Traffic.handle_eq]
    exact Fate.count_received _ _
  rw [hcount, Nat.zero_add, List.countP_true]

/-- **Forwarded means sent, dropped means not sent**: each of the four pipelines has a
destination for a packet exactly if it lets it through, for every buffer and codec, and so
over any run as many datagrams are sent as are counted as forwarded, and no more than are
received. -/
theorem forwarded_iff_sent (v4 : V4.Codec) (v6 : V6.Codec) :
    (∀ raw src interface args,
        ((V4.buildRequest v4 args).execute (.new raw src interface)).1 = .ok true
          ↔ ((V4.buildRequest v4 args).execute (.new raw src interface)).2.dstAddr.isSome)
      ∧ (∀ raw src interface expected vssConfig enableOption82,
        ((V4.buildReply v4 expected vssConfig enableOption82).execute
            (.new raw src interface)).1 = .ok true
          ↔ ((V4.buildReply v4 expected vssConfig enableOption82).execute
            (.new raw src interface)).2.dstAddr.isSome)
      ∧ (∀ raw src interface args,
        ((V6.buildRequest v6 args).execute (.new raw src interface)).1 = .ok true
          ↔ ((V6.buildRequest v6 args).execute (.new raw src interface)).2.dstAddr.isSome)
      ∧ (∀ raw src interface clientAddr vssConfig,
        ((V6.buildReply v6 clientAddr vssConfig).execute (.new raw src interface)).1 = .ok true
          ↔ ((V6.buildReply v6 clientAddr vssConfig).execute
            (.new raw src interface)).2.dstAddr.isSome)
      ∧ ∀ arrivals,
        (run (Traffic.handle v4 v6) {} arrivals).stats.packetsForwarded
            = (run (Traffic.handle v4 v6) {} arrivals).sent.length
          ∧ (run (Traffic.handle v4 v6) {} arrivals).stats.packetsForwarded
            ≤ (run (Traffic.handle v4 v6) {} arrivals).stats.packetsReceived := by
  refine ⟨fun _ _ _ args => V4.request_passed_iff_dstAddr v4 args rfl,
    fun _ _ _ expected cfg on => V4.reply_passed_iff_dstAddr v4 expected cfg on rfl,
    fun _ _ _ args => V6.request_passed_iff_dstAddr v6 args rfl,
    fun _ _ _ addr cfg => V6.reply_passed_iff_dstAddr v6 addr cfg rfl, fun arrivals => ?_⟩
  constructor
  · rw [Traffic.run_forwarded, Traffic.run_sent]
  · rw [Traffic.run_forwarded, Traffic.run_received]
    exact List.countP_le_length

end

end DhcpRelay
