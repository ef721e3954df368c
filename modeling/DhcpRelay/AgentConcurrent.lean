import DhcpRelay.AgentStats
import DhcpRelay.Library.Threads
import Mathlib.Data.Fintype.BigOperators

/-!
# DhcpRelay.AgentConcurrent

**The receive loops at the same time.** The tasks of an agent run concurrently and share the
counters of its statistics (`define_stats!` in `lib.rs`), which are atomic: each increment of
a handler is an operation of its own, and those of different tasks may come in any order, with
the loads of a snapshot between them.

What a task does with its datagrams is a program of increments and sends (`Arrival.effects`),
and the handlers of `Agent` are these effects in one go (`foldl_effects`). So every
interleaving of tasks that finish leaves the counters, and sends the datagrams, of the tasks
handling one datagram after the other; on the way there, and in a snapshot, counters may be
ahead of one another, but only as far as the programs allow.
-/

namespace DhcpRelay

open DhcpRelay.Library

/-- The counters, in the order of their declaration. -/
inductive Counter
  | packetsReceived
  | packetsForwarded
  | packetsDroppedParseError
  | packetsDroppedSpoof
  | option82Inserted
  | option82Stripped
  | vssNotSupported
  | smfDuplicatesDetected
  | smfForwarded
  deriving DecidableEq

/-- The names that `define_stats!` is given. -/
def Counter.all : List Counter :=
  [.packetsReceived, .packetsForwarded, .packetsDroppedParseError, .packetsDroppedSpoof,
    .option82Inserted, .option82Stripped, .vssNotSupported, .smfDuplicatesDetected, .smfForwarded]

theorem Counter.mem_all (c : Counter) : c ∈ Counter.all := by
  cases c <;> decide

namespace RelayStats

/-- `load` of one counter. -/
def load (stats : RelayStats) : Counter → Nat
  | .packetsReceived => stats.packetsReceived
  | .packetsForwarded => stats.packetsForwarded
  | .packetsDroppedParseError => stats.packetsDroppedParseError
  | .packetsDroppedSpoof => stats.packetsDroppedSpoof
  | .option82Inserted => stats.option82Inserted
  | .option82Stripped => stats.option82Stripped
  | .vssNotSupported => stats.vssNotSupported
  | .smfDuplicatesDetected => stats.smfDuplicatesDetected
  | .smfForwarded => stats.smfForwarded

/-- The statistics with these counters. -/
def ofLoads (loads : Counter → Nat) : RelayStats where
  packetsReceived := loads .packetsReceived
  packetsForwarded := loads .packetsForwarded
  packetsDroppedParseError := loads .packetsDroppedParseError
  packetsDroppedSpoof := loads .packetsDroppedSpoof
  option82Inserted := loads .option82Inserted
  option82Stripped := loads .option82Stripped
  vssNotSupported := loads .vssNotSupported
  smfDuplicatesDetected := loads .smfDuplicatesDetected
  smfForwarded := loads .smfForwarded

@[simp] theorem load_ofLoads (loads : Counter → Nat) (c : Counter) :
    (ofLoads loads).load c = loads c := by
  cases c <;> rfl

@[simp] theorem ofLoads_load (stats : RelayStats) : ofLoads stats.load = stats := rfl

theorem ext_load {stats stats' : RelayStats} (h : ∀ c, stats.load c = stats'.load c) :
    stats = stats' := by
  rw [← ofLoads_load stats, ← ofLoads_load stats', funext h]

/-- `fetch_add(1)` on one counter. -/
def fetchAdd (stats : RelayStats) (c : Counter) : RelayStats :=
  ofLoads (Function.update stats.load c (stats.load c + 1))

theorem load_fetchAdd (stats : RelayStats) (c c' : Counter) :
    (stats.fetchAdd c).load c' = stats.load c' + if c = c' then 1 else 0 := by
  rw [fetchAdd, load_ofLoads]
  by_cases h : c = c'
  · rw [h, Function.update_self, if_pos rfl]
  · rw [Function.update_of_ne (Ne.symm h), if_neg h, Nat.add_zero]

@[simp] theorem fetchAdd_received (stats : RelayStats) :
    stats.fetchAdd .packetsReceived = stats.countReceived := rfl

@[simp] theorem fetchAdd_forwarded (stats : RelayStats) :
    stats.fetchAdd .packetsForwarded = stats.countForwarded := rfl

@[simp] theorem fetchAdd_droppedSpoof (stats : RelayStats) :
    stats.fetchAdd .packetsDroppedSpoof = stats.countDroppedSpoof := rfl

@[simp] theorem fetchAdd_stripped (stats : RelayStats) :
    stats.fetchAdd .option82Stripped = stats.countStripped := rfl

end RelayStats

/-- What a handler does that others can see. -/
inductive Effect
  | count (c : Counter)
  | send (d : Datagram)
  deriving DecidableEq

/-- What is done with a datagram that has met its fate. -/
def Fate.effects : Fate → List Effect
  | clientV4 (.ok true, ctx) => .count .packetsForwarded :: ctx.outgoing.toList.map .send
  | clientV4 (.error _, _) => [.count .packetsDroppedSpoof]
  | serverV4 (.ok true, ctx) =>
    .count .packetsForwarded :: .count .option82Stripped :: ctx.outgoing.toList.map .send
  | clientV6 (.ok true, ctx) => .count .packetsForwarded :: ctx.outgoing.toList.map .send
  | serverV6 (.ok true, ctx) => .count .packetsForwarded :: ctx.outgoing.toList.map .send
  | _ => []

/-- What a receive loop does with a datagram. -/
def Arrival.effects (v4 : V4.Codec) (v6 : V6.Codec) (a : Arrival) : List Effect :=
  .count .packetsReceived :: (a.fate v4 v6).effects

/-- One effect. -/
def Traffic.act (t : Traffic) : Effect → Traffic
  | .count c => { t with stats := t.stats.fetchAdd c }
  | .send d => { t with sent := t.sent ++ [d] }

section

variable {v4 : V4.Codec} {v6 : V6.Codec}

theorem foldl_send (t : Traffic) (sent : List Datagram) :
    (sent.map Effect.send).foldl Traffic.act t = { t with sent := t.sent ++ sent } := by
  induction sent generalizing t with
  | nil => simp
  | cons d sent ih =>
      rw [List.map_cons, List.foldl_cons, ih, Traffic.act, List.append_assoc]
      rfl

/-- The effects on a datagram, in one go, are what its handler does. -/
theorem foldl_effects (t : Traffic) (a : Arrival) :
    (a.effects v4 v6).foldl Traffic.act t = t.handle v4 v6 a := by
  rw [Traffic.handle_eq, Arrival.effects, List.foldl_cons, Traffic.act,
    RelayStats.fetchAdd_received]
  have hnone : ∀ stats, ({ stats := stats, sent := t.sent } : Traffic)
      = { stats := stats, sent := t.sent ++ (none : Option Datagram).toList } := by
    simp
  cases a.fate v4 v6 with
  | undecoded | ignored => exact hnone _
  | clientV4 out | serverV4 out | clientV6 out | serverV6 out =>
      rcases out with ⟨_ | _ | _, ctx⟩
      · exact hnone _
      · exact hnone _
      · exact foldl_send _ _

/-- Handling datagrams one after the other is carrying out their effects in this order. -/
theorem run_handle (arrivals : List Arrival) (t : Traffic) :
    run (Traffic.handle v4 v6) t arrivals
      = run Traffic.act t (arrivals.flatMap (Arrival.effects v4 v6)) := by
  rw [run, run, List.foldl_flatMap]
  exact congrArg (fun f => arrivals.foldl f t) (funext₂ fun t a => (foldl_effects t a).symm)

/-! ### What effects add up to -/

/-- What is sent by an effect. -/
def Effect.sent : Effect → Option Datagram
  | .count _ => none
  | .send d => some d

theorem load_run_act (t : Traffic) (effects : List Effect) (c : Counter) :
    (run Traffic.act t effects).stats.load c
      = t.stats.load c + effects.countP (· = .count c) := by
  refine run_countP (c := fun t : Traffic => t.stats.load c) (fun t e => ?_) effects
  cases e with
  | count c' => simp [Traffic.act, RelayStats.load_fetchAdd]
  | send d => simp [Traffic.act]

theorem sent_run_act (t : Traffic) (effects : List Effect) :
    (run Traffic.act t effects).sent = t.sent ++ effects.filterMap Effect.sent := by
  induction effects using List.reverseRecOn with
  | nil => simp
  | append_singleton effects e ih =>
      rw [run_concat, List.filterMap_append, ← List.append_assoc, ← ih]
      cases e with
      | count c => simp [Traffic.act, Effect.sent]
      | send d => simp [Traffic.act, Effect.sent]

/-- The order of effects shows only in the order of what is sent. -/
theorem run_act_perm {effects effects' : List Effect} (h : effects.Perm effects') (t : Traffic) :
    (run Traffic.act t effects).stats = (run Traffic.act t effects').stats
      ∧ (run Traffic.act t effects).sent.Perm (run Traffic.act t effects').sent := by
  constructor
  · apply RelayStats.ext_load
    intro c
    rw [load_run_act, load_run_act, h.countP_eq]
  · rw [sent_run_act, sent_run_act]
    exact (h.filterMap _).append_left _

/-- Fewer effects come to less. -/
theorem run_act_subperm {effects effects' : List Effect} (h : effects.Subperm effects')
    (t : Traffic) :
    (∀ c, (run Traffic.act t effects).stats.load c ≤ (run Traffic.act t effects').stats.load c)
      ∧ (run Traffic.act t effects).sent.Subperm (run Traffic.act t effects').sent := by
  refine ⟨fun c => ?_, ?_⟩
  · rw [load_run_act, load_run_act]
    exact Nat.add_le_add_left (h.countP_le _) _
  · obtain ⟨some, hperm, hsub⟩ := h
    rw [sent_run_act, sent_run_act]
    exact (List.Subperm.refl _).append ⟨_, hperm.filterMap _, hsub.filterMap _⟩

/-! ### All tasks at the same time -/

/-- The tasks of an agent, with what they have yet to do. -/
abbrev Tasks (ι : Type) := Threads ι Effect Traffic

namespace Tasks

variable {ι : Type}

/-- The tasks before they handle what arrives at them. -/
def start (v4 : V4.Codec) (v6 : V6.Codec) (inbox : ι → List Arrival) : Tasks ι :=
  .init (fun i => (inbox i).flatMap (Arrival.effects v4 v6)) {}

variable [DecidableEq ι]

/-- The tasks after these turns. -/
def after (tasks : Tasks ι) (turns : List ι) : Tasks ι :=
  run (Threads.step Traffic.act) tasks turns

variable [Fintype ι] {inbox : ι → List Arrival} {turns : List ι} {arrivals : List Arrival}

omit [DecidableEq ι] in
/-- The effects of what arrives at the tasks. -/
theorem sum_effects (v4 : V4.Codec) (v6 : V6.Codec)
    (harrivals : (arrivals : Multiset Arrival) = ∑ i, (inbox i : Multiset Arrival)) :
    ∑ i, (((inbox i).flatMap (Arrival.effects v4 v6) : List Effect) : Multiset Effect)
      = (arrivals.flatMap (Arrival.effects v4 v6) : List Effect) := by
  let effectsOf : Multiset Arrival →+ Multiset Effect := {
    toFun := fun arrivals => arrivals.bind fun a => (a.effects v4 v6 : Multiset Effect)
    map_zero' := Multiset.zero_bind _
    map_add' := fun arrivals arrivals' => Multiset.add_bind arrivals arrivals' _ }
  have hsum := map_sum effectsOf (fun i => (inbox i : Multiset Arrival)) Finset.univ
  rw [← Multiset.coe_bind, harrivals]
  exact (hsum.trans (Finset.sum_congr rfl fun i _ => Multiset.coe_bind _ _)).symm

/-- Where the tasks are done, their effects are those of what arrived, in some order. -/
theorem ops_perm (h : ((start v4 v6 inbox).after turns).Finished)
    (harrivals : (arrivals : Multiset Arrival) = ∑ i, (inbox i : Multiset Arrival)) :
    ((start v4 v6 inbox).after turns).ops.Perm (arrivals.flatMap (Arrival.effects v4 v6)) := by
  rw [← Multiset.coe_eq_coe, after, start, Threads.run_ops h, sum_effects v4 v6 harrivals]

/-- At any time, they are some of these. -/
theorem ops_subperm (v4 : V4.Codec) (v6 : V6.Codec) (turns : List ι)
    (harrivals : (arrivals : Multiset Arrival) = ∑ i, (inbox i : Multiset Arrival)) :
    ((start v4 v6 inbox).after turns).ops.Subperm
      (arrivals.flatMap (Arrival.effects v4 v6)) := by
  rw [← Multiset.coe_le, ← sum_effects v4 v6 harrivals]
  exact Threads.run_ops_le _ _ turns

/-- **Every interleaving comes to the same**: where the tasks, whatever their turns, are done
with what arrived at them, the counters are those of handling these datagrams one after the
other, in any order, and the same datagrams were sent. -/
theorem after_eq_sequential (h : ((start v4 v6 inbox).after turns).Finished)
    (harrivals : (arrivals : Multiset Arrival) = ∑ i, (inbox i : Multiset Arrival)) :
    ((start v4 v6 inbox).after turns).shared.stats
        = (run (Traffic.handle v4 v6) {} arrivals).stats
      ∧ ((start v4 v6 inbox).after turns).shared.sent.Perm
        (run (Traffic.handle v4 v6) {} arrivals).sent := by
  have hops := ops_perm h harrivals
  rw [after, start, Threads.run_shared, run_handle]
  exact run_act_perm hops {}

/-- A discover at one task, and a datagram that is no message at another. -/
def sampleInbox : Bool → List Arrival
  | true => [.v4 (sampleTask none none) (V4.Wire.writeMessage V4.sampleDiscover) V4.sampleClient]
  | false => [.v4 (sampleTask none none) [1, 2, 3] V4.sampleClient]

theorem sampleInbox_sequential :
    ((start V4.Wire.wire V6.Wire.wire sampleInbox).after [true, false, true]).shared.stats
        = (run (Traffic.handle V4.Wire.wire V6.Wire.wire) {} sampleArrivals).stats
      ∧ ((start V4.Wire.wire V6.Wire.wire sampleInbox).after [true, false, true]).shared.sent.Perm
        (run (Traffic.handle V4.Wire.wire V6.Wire.wire) {} sampleArrivals).sent := by
  obtain ⟨text, ctx, hrefused⟩ : ∃ text ctx, (Arrival.v4 (sampleTask none none)
      (V4.Wire.writeMessage V4.sampleDiscover) V4.sampleClient).fate V4.Wire.wire V6.Wire.wire
        = .clientV4 (.error (.config text), ctx) :=
    Arrival.fate_of_no_ids V4.Wire.wire_lawful rfl ⟨rfl, rfl⟩ V4.sampleDiscover_decode rfl rfl rfl
  have hundecoded : (Arrival.v4 (sampleTask none none) [1, 2, 3] V4.sampleClient).fate
      V4.Wire.wire V6.Wire.wire = .undecoded := Arrival.fate_of_undecodable rfl
  refine after_eq_sequential ?_ ?_
  · intro i
    cases i <;> simp [after, start, run, Threads.init, Threads.step, sampleInbox,
      Arrival.effects, hrefused, hundecoded, Fate.effects, Function.update]
  · rw [Fintype.sum_bool]
    rfl

/-! ### On the way -/

/-- **What can be done with a datagram**: nothing but count it, count it as refused, or count
it as forwarded, perhaps as stripped, and send at most one. -/
theorem effects_cases (v4 : V4.Codec) (v6 : V6.Codec) (a : Arrival) :
    a.effects v4 v6 = [.count .packetsReceived]
      ∨ a.effects v4 v6 = [.count .packetsReceived, .count .packetsDroppedSpoof]
      ∨ ∃ sent : Option Datagram,
        a.effects v4 v6 = .count .packetsReceived :: .count .packetsForwarded
            :: sent.toList.map .send
          ∨ a.effects v4 v6 = .count .packetsReceived :: .count .packetsForwarded
            :: .count .option82Stripped :: sent.toList.map .send := by
  unfold Arrival.effects
  cases a.fate v4 v6 with
  | undecoded | ignored => exact .inl rfl
  | clientV4 out =>
      rcases out with ⟨_ | _ | _, ctx⟩
      · exact .inr (.inl rfl)
      · exact .inl rfl
      · exact .inr (.inr ⟨ctx.outgoing, .inl rfl⟩)
  | serverV4 out =>
      rcases out with ⟨_ | _ | _, ctx⟩
      · exact .inl rfl
      · exact .inl rfl
      · exact .inr (.inr ⟨ctx.outgoing, .inr rfl⟩)
  | clientV6 out | serverV6 out =>
      rcases out with ⟨_ | _ | _, ctx⟩
      · exact .inl rfl
      · exact .inl rfl
      · exact .inr (.inr ⟨ctx.outgoing, .inl rfl⟩)

/-- What each datagram has one of at most, and then after an operation in `p`, all tasks
together have no more of than operations in `p`. -/
theorem countP_ops_le {p q : Effect → Bool}
    (h : ∀ a : Arrival, (a.effects v4 v6).countP q = 0
      ∨ ∃ before op after, a.effects v4 v6 = before ++ op :: after ∧ p op = true
        ∧ before.countP q = 0 ∧ (a.effects v4 v6).countP q ≤ 1)
    (inbox : ι → List Arrival) (turns : List ι) :
    ((start v4 v6 inbox).after turns).ops.countP q
      ≤ ((start v4 v6 inbox).after turns).ops.countP p := by
  refine Threads.countP_le (fun i _ hdone => Threads.countP_le_flatMap ?_ (inbox i) hdone) turns
  intro a done hdone
  rcases h a with hnone | ⟨before, op, after, heq, hp, hbefore, honce⟩
  · have hle : done.countP q ≤ (a.effects v4 v6).countP q := hdone.sublist.countP_le
    omega
  · rw [heq] at hdone honce
    exact Threads.countP_le_of_once hp hbefore honce hdone

omit [Fintype ι] in
theorem after_shared (v4 : V4.Codec) (v6 : V6.Codec) (inbox : ι → List Arrival) (turns : List ι) :
    ((start v4 v6 inbox).after turns).shared
      = run Traffic.act {} ((start v4 v6 inbox).after turns).ops :=
  Threads.run_shared _ _ turns

omit [Fintype ι] in
theorem after_load (v4 : V4.Codec) (v6 : V6.Codec) (inbox : ι → List Arrival) (turns : List ι)
    (c : Counter) :
    ((start v4 v6 inbox).after turns).shared.stats.load c
      = ((start v4 v6 inbox).after turns).ops.countP (· = .count c) := by
  rw [after_shared, load_run_act]
  cases c <;> exact Nat.zero_add _

omit [DecidableEq ι] [Fintype ι] in
/-- A datagram is forwarded or refused, not both. -/
theorem countP_settled (effects : List Effect) :
    effects.countP (fun e => e = .count .packetsForwarded || e = .count .packetsDroppedSpoof)
      = effects.countP (· = .count .packetsForwarded)
        + effects.countP (· = .count .packetsDroppedSpoof) := by
  induction effects with
  | nil => rfl
  | cons e effects ih =>
      rw [List.countP_cons, List.countP_cons, List.countP_cons, ih]
      by_cases h : e = .count .packetsForwarded
      · subst h
        simp
        omega
      · simp [h]
        omega

/-- What was forwarded or refused was received before. -/
theorem settled_le_received (v4 : V4.Codec) (v6 : V6.Codec) (inbox : ι → List Arrival)
    (turns : List ι) :
    ((start v4 v6 inbox).after turns).shared.stats.packetsForwarded
        + ((start v4 v6 inbox).after turns).shared.stats.packetsDroppedSpoof
      ≤ ((start v4 v6 inbox).after turns).shared.stats.packetsReceived := by
  have hcount : ((start v4 v6 inbox).after turns).ops.countP
        (fun e => e = .count .packetsForwarded || e = .count .packetsDroppedSpoof)
      ≤ ((start v4 v6 inbox).after turns).ops.countP (· = .count .packetsReceived) := by
    refine countP_ops_le (fun a => .inr ⟨[], _, _, rfl, rfl, rfl, ?_⟩) inbox turns
    rcases effects_cases v4 v6 a with h | h | ⟨sent, h | h⟩
    · exact h ▸ Nat.zero_le 1
    · exact h ▸ Nat.le_refl 1
    · rw [h]
      cases sent <;> exact Nat.le_refl 1
    · rw [h]
      cases sent <;> exact Nat.le_refl 1
  rw [countP_settled, ← after_load, ← after_load, ← after_load] at hcount
  exact hcount

/-- What was stripped was forwarded before. -/
theorem stripped_le_forwarded (v4 : V4.Codec) (v6 : V6.Codec) (inbox : ι → List Arrival)
    (turns : List ι) :
    ((start v4 v6 inbox).after turns).shared.stats.option82Stripped
      ≤ ((start v4 v6 inbox).after turns).shared.stats.packetsForwarded := by
  have hcount : ((start v4 v6 inbox).after turns).ops.countP (· = .count .option82Stripped)
      ≤ ((start v4 v6 inbox).after turns).ops.countP (· = .count .packetsForwarded) := by
    refine countP_ops_le (fun a => ?_) inbox turns
    rcases effects_cases v4 v6 a with h | h | ⟨sent, h | h⟩
    · exact .inl (by rw [h]; rfl)
    · exact .inl (by rw [h]; rfl)
    · exact .inl (by rw [h]; cases sent <;> rfl)
    · refine .inr ⟨[.count .packetsReceived], _, _, h, rfl, rfl, ?_⟩
      rw [h]
      cases sent <;> exact Nat.le_refl 1
  rw [← after_load, ← after_load] at hcount
  exact hcount

/-- What was sent was counted as forwarded before. -/
theorem sent_le_forwarded (v4 : V4.Codec) (v6 : V6.Codec) (inbox : ι → List Arrival)
    (turns : List ι) :
    ((start v4 v6 inbox).after turns).shared.sent.length
      ≤ ((start v4 v6 inbox).after turns).shared.stats.packetsForwarded := by
  have honce : ∀ sent : Option Datagram,
      (sent.toList.map Effect.send).countP (fun e => e.sent.isSome) ≤ 1 := by
    intro sent
    cases sent with
    | none => exact Nat.zero_le 1
    | some d => exact Nat.le_refl 1
  have hcount : ((start v4 v6 inbox).after turns).ops.countP (fun e => e.sent.isSome)
      ≤ ((start v4 v6 inbox).after turns).ops.countP (· = .count .packetsForwarded) := by
    refine countP_ops_le (fun a => ?_) inbox turns
    rcases effects_cases v4 v6 a with h | h | ⟨sent, h | h⟩
    · exact .inl (by rw [h]; rfl)
    · exact .inl (by rw [h]; rfl)
    · exact .inr ⟨[.count .packetsReceived], _, _, h, rfl, rfl, h ▸ honce sent⟩
    · exact .inr ⟨[.count .packetsReceived], _, _, h, rfl, rfl, h ▸ honce sent⟩
  have hlength : ((start v4 v6 inbox).after turns).shared.sent.length
      = ((start v4 v6 inbox).after turns).ops.countP fun e => e.sent.isSome := by
    rw [after_shared, sent_run_act, List.nil_append, List.length_filterMap_eq_countP]
  rw [← after_load] at hcount
  exact hlength.trans_le hcount

/-- **No counter runs ahead**, whatever the turns so far. -/
theorem after_ordered (v4 : V4.Codec) (v6 : V6.Codec) (inbox : ι → List Arrival)
    (turns : List ι) :
    let t := ((start v4 v6 inbox).after turns).shared
    t.stats.packetsForwarded + t.stats.packetsDroppedSpoof ≤ t.stats.packetsReceived
      ∧ t.stats.option82Stripped ≤ t.stats.packetsForwarded
      ∧ t.sent.length ≤ t.stats.packetsForwarded :=
  ⟨settled_le_received v4 v6 inbox turns, stripped_le_forwarded v4 v6 inbox turns,
    sent_le_forwarded v4 v6 inbox turns⟩

/-! ### Snapshots -/

omit [Fintype ι]

/-- What these counters are loaded as, one after the other, with turns of the tasks before
each load. -/
def loads (between : Counter → List ι) : List Counter → Tasks ι → (Counter → Nat) × Tasks ι
  | [], tasks => (fun _ => 0, tasks)
  | c :: rest, tasks =>
    let tasks := tasks.after (between c)
    let (values, tasks') := loads between rest tasks
    (Function.update values c (tasks.shared.stats.load c), tasks')

/-- `RelayStats::snapshot`: each counter is loaded on its own, in the order of declaration. -/
def snapshot (between : Counter → List ι) (tasks : Tasks ι) : RelayStats × Tasks ι :=
  let (values, tasks) := loads between Counter.all tasks
  (.ofLoads values, tasks)

/-- A counter never goes down. -/
theorem load_le_after (tasks : Tasks ι) (turns : List ι) (c : Counter) :
    tasks.shared.stats.load c ≤ (tasks.after turns).shared.stats.load c := by
  refine run_induction (P := fun _ (tasks' : Tasks ι) =>
    tasks.shared.stats.load c ≤ tasks'.shared.stats.load c) le_rfl ?_ turns
  intro turns i ih
  rcases Threads.step_cases Traffic.act (run (Threads.step Traffic.act) tasks turns) i with
    ⟨-, hstep⟩ | ⟨op, rest, -, hstep⟩
  · rw [hstep]
    exact ih
  · rw [hstep]
    refine ih.trans ?_
    have hload := load_run_act (run (Threads.step Traffic.act) tasks turns).shared [op] c
    exact hload ▸ Nat.le_add_right _ _

theorem after_after (tasks : Tasks ι) (turns turns' : List ι) :
    (tasks.after turns).after turns' = tasks.after (turns ++ turns') :=
  (run_append _ _ _ _).symm

/-- While counters are loaded, the tasks have the turns they are given. -/
theorem exists_loads_eq_after (between : Counter → List ι) (counters : List Counter)
    (tasks : Tasks ι) : ∃ turns, (loads between counters tasks).2 = tasks.after turns := by
  induction counters generalizing tasks with
  | nil => exact ⟨[], rfl⟩
  | cons c rest ih =>
      obtain ⟨turns, hturns⟩ := ih (tasks.after (between c))
      exact ⟨between c ++ turns, hturns.trans (after_after _ _ _)⟩

/-- A counter is loaded as something that it was in the meantime. -/
theorem loads_mem (between : Counter → List ι) {counters : List Counter} {c : Counter}
    (hc : c ∈ counters) (tasks : Tasks ι) :
    ∃ turns turns', (loads between counters tasks).1 c = (tasks.after turns).shared.stats.load c
      ∧ (loads between counters tasks).2 = (tasks.after turns).after turns' := by
  induction counters generalizing tasks with
  | nil => simp at hc
  | cons d rest ih =>
      by_cases hdc : c = d
      · subst hdc
        obtain ⟨turns', hturns'⟩ := exists_loads_eq_after between rest (tasks.after (between c))
        exact ⟨between c, turns', Function.update_self .., hturns'⟩
      · obtain ⟨turns, turns', hload, hrest⟩ := ih (List.mem_of_ne_of_mem hdc hc)
          (tasks.after (between d))
        refine ⟨between d ++ turns, turns', ?_, ?_⟩
        · rw [← after_after]
          exact (Function.update_of_ne hdc ..).trans hload
        · rw [← after_after]
          exact hrest

/-- **What one value of a snapshot says**: the counter was that while the snapshot was taken. -/
theorem snapshot_load (between : Counter → List ι) (tasks : Tasks ι) (c : Counter) :
    tasks.shared.stats.load c ≤ (tasks.snapshot between).1.load c
      ∧ (tasks.snapshot between).1.load c
        ≤ (tasks.snapshot between).2.shared.stats.load c := by
  have hvalue : (tasks.snapshot between).1.load c = (loads between Counter.all tasks).1 c :=
    RelayStats.load_ofLoads _ c
  obtain ⟨turns, turns', hload, hrest⟩ := loads_mem between c.mem_all tasks
  rw [hvalue, hload]
  constructor
  · exact load_le_after tasks turns c
  · show _ ≤ (loads between Counter.all tasks).2.shared.stats.load c
    rw [hrest]
    exact load_le_after _ turns' c

variable [Fintype ι]

/-- **What a snapshot says**, whatever the tasks do before and while it is taken: each counter
was what the snapshot says at some time while it was taken, all of them at once if none changed
meanwhile; what it says was forwarded and refused has been received at its end; and a later
snapshot does not say less. -/
theorem snapshot_between (v4 : V4.Codec) (v6 : V6.Codec) (inbox : ι → List Arrival)
    (turns : List ι) (between : Counter → List ι) :
    let tasks := (start v4 v6 inbox).after turns
    let taken := tasks.snapshot between
    (∀ c, tasks.shared.stats.load c ≤ taken.1.load c
        ∧ taken.1.load c ≤ taken.2.shared.stats.load c)
      ∧ (taken.2.shared.stats = tasks.shared.stats → taken.1 = tasks.shared.stats)
      ∧ taken.1.packetsForwarded + taken.1.packetsDroppedSpoof
        ≤ taken.2.shared.stats.packetsReceived
      ∧ ∀ turns' between' c,
        taken.1.load c ≤ ((taken.2.after turns').snapshot between').1.load c := by
  intro tasks taken
  have hload : ∀ c, tasks.shared.stats.load c ≤ taken.1.load c
      ∧ taken.1.load c ≤ taken.2.shared.stats.load c := tasks.snapshot_load between
  refine ⟨hload, fun hstill => ?_, ?_, fun turns' between' c => ?_⟩
  · apply RelayStats.ext_load
    intro c
    exact le_antisymm (hstill ▸ (hload c).2) (hload c).1
  · obtain ⟨turns', hturns'⟩ := exists_loads_eq_after between Counter.all tasks
    have hafter : taken.2 = (start v4 v6 inbox).after (turns ++ turns') :=
      hturns'.trans (after_after _ _ _)
    have hsettled := settled_le_received v4 v6 inbox (turns ++ turns')
    have hforwarded : taken.1.packetsForwarded ≤ _ := (hload .packetsForwarded).2
    have hspoof : taken.1.packetsDroppedSpoof ≤ _ := (hload .packetsDroppedSpoof).2
    rw [hafter] at hforwarded hspoof ⊢
    exact (Nat.add_le_add hforwarded hspoof).trans hsettled
  · exact (hload c).2.trans ((load_le_after _ turns' c).trans (snapshot_load between' _ c).1)

end Tasks

end

end DhcpRelay
