import DhcpRelay.AgentLife

/-!
# DhcpRelay.AgentWork

What the loops of an agent have done, have yet to do, and will do.

* They are threads that share the agent's counters and its network
  (`AgentLife.refines_tasks`), so that what is said about the interleavings of `Tasks` holds of
  an agent.
* At no time have they done more than handling what they have taken comes to
  (`AgentLife.within_taken`).
* A shutdown that reaches the tasks stops them between datagrams, never within one
  (`AgentLife.graceful_stop`).
-/

namespace DhcpRelay

open DhcpRelay.Library

variable {config : RelayConfig} {v4 : V4.Codec} {v6 : V6.Codec} {s s' : AgentLife}

/-! ### What is done and what is to do -/

/-- A loop that is handling a packet does so until it is done. -/
theorem AgentState.handling_stays {s : AgentState} {interfaces i : Nat} {a : AgentAction}
    {rx : Watch.Receiver} (hloop : s.loops[i]? = some ⟨rx, .handling⟩) (ha : a ≠ .handled i) :
    (s.step interfaces a).loops[i]? = some ⟨rx, .handling⟩ := by
  cases a with
  | run bound =>
      rw [step]
      unfold advance
      split
      · exact hloop
      · exact hloop
      · split
        · obtain ⟨hlt, -⟩ := List.getElem?_eq_some_iff.mp hloop
          exact (List.getElem?_append_left hlt).trans hloop
        · exact hloop
      · exact hloop
      · exact hloop
  | shutdown => exact hloop
  | select j packet =>
      rw [step]
      unfold select
      split
      · next rx' hj =>
          by_cases hij : j = i
          · obtain rfl := hij
            simp [hloop] at hj
          · exact (List.getElem?_set_ne hij).trans hloop
      · exact hloop
  | handled j =>
      rw [step]
      unfold handled
      split
      · next rx' hj =>
          by_cases hij : j = i
          · exact absurd (congrArg AgentAction.handled hij) ha
          · exact (List.getElem?_set_ne hij).trans hloop
      · exact hloop

/-- The loops of an agent. -/
abbrev RelayConfig.Loop (config : RelayConfig) : Type :=
  Fin (config.enabled.length + config.enabled.length)

/-- **What the loops have taken**, in the order of `takes`, **and what they have done**, in the
order of `log`: what is left of a loop's datagrams is what it has yet to do. -/
structure AgentLife.Logged (s : AgentLife) (v4 : V4.Codec) (v6 : V6.Codec)
    (takes : List (config.Loop × Arrival)) (log : List (config.Loop × Effect)) : Prop where
  program : ∀ i, Threads.doneBy log i ++ s.todo i
    = (Threads.doneBy takes i).flatMap (Arrival.effects v4 v6)
  traffic : s.traffic = (log.map Prod.snd).foldl Traffic.act {}
  taken : s.taken = takes.map Prod.snd
  tasks : ∀ i, ∀ a ∈ Threads.doneBy takes i, ∃ task, s.tasks[i.val]? = some task
    ∧ ∃ incoming, task.arrival incoming = some a

/-- What holds between the loops and their work: only loops that are handling a datagram have
anything to do, and not much. -/
structure AgentLife.Work (config : RelayConfig) (v4 : V4.Codec) (v6 : V6.Codec) (s : AgentLife) :
    Prop where
  sound : s.agent.Sound config.enabled.length
  busy : ∀ i, s.todo i ≠ [] → ∃ rx, s.agent.loops[i]? = some ⟨rx, .handling⟩
  short : ∀ i, (s.todo i).length ≤ 4
  logged : ∃ (takes : List (config.Loop × Arrival)) (log : List (config.Loop × Effect)),
    s.Logged v4 v6 takes log

/-- A datagram takes at most four effects. -/
theorem Arrival.length_effects_le (a : Arrival) : (a.effects v4 v6).length ≤ 4 := by
  rcases Tasks.effects_cases v4 v6 a with h | h | ⟨sent, h | h⟩
  · rw [h]
    simp
  · rw [h]
    simp
  · rw [h]
    cases sent <;> simp
  · rw [h]
    cases sent <;> simp

theorem AgentState.Sound.step_any {s : AgentState} {interfaces : Nat} (h : s.Sound interfaces)
    (a : AgentAction) : (s.step interfaces a).Sound interfaces := by
  by_cases ha : a = .shutdown
  · rw [ha]
    exact h.shutdown
  · exact h.step (s.step_inv interfaces ha)

namespace AgentLife.Logged

variable {takes : List (config.Loop × Arrival)} {log : List (config.Loop × Effect)}

/-- A loop takes a datagram, with nothing to do before. -/
theorem take {i : config.Loop} {task : AgentTask} {incoming : Incoming} {a : Arrival}
    (h : s.Logged v4 v6 takes log) (hnone : s.todo i = []) (htask : s.tasks[i.val]? = some task)
    (harrival : task.arrival incoming = some a) :
    (s.take v4 v6 i a).Logged v4 v6 (takes ++ [(i, a)]) log := by
  refine ⟨fun j => ?_, h.traffic, ?_, fun j b hb => ?_⟩
  · have hprogram := h.program j
    rw [todo_take, Threads.doneBy_concat]
    by_cases hij : i = j
    · rw [← hij, hnone, List.append_nil] at hprogram
      rw [← hij, if_pos rfl, Function.update_self, List.flatMap_append, hprogram,
        List.flatMap_singleton]
    · have hval : j.val ≠ i.val := fun heq => hij (Fin.ext heq.symm)
      rw [if_neg hij, List.append_nil, Function.update_of_ne hval]
      exact hprogram
  · rw [List.map_append, ← h.taken]
    rfl
  · rw [Threads.doneBy_concat] at hb
    rcases List.mem_append.mp hb with hold | hnew
    · exact h.tasks j b hold
    · by_cases hij : i = j
      · rw [if_pos hij] at hnew
        obtain rfl := List.mem_singleton.mp hnew
        exact hij ▸ ⟨task, htask, incoming, harrival⟩
      · rw [if_neg hij] at hnew
        simp at hnew

/-- A loop carries out an effect. -/
theorem act {i : config.Loop} {e : Effect} {rest : List Effect} (h : s.Logged v4 v6 takes log)
    (htodo : s.todo i = e :: rest) :
    (s.carryOut i e rest).Logged v4 v6 takes (log ++ [(i, e)]) := by
  refine ⟨fun j => ?_, ?_, h.taken, h.tasks⟩
  · have hprogram := h.program j
    rw [todo_carryOut, Threads.doneBy_concat]
    by_cases hij : i = j
    · rw [← hij, htodo] at hprogram
      rw [← hij, if_pos rfl, Function.update_self, List.append_assoc]
      exact hprogram
    · have hval : j.val ≠ i.val := fun heq => hij (Fin.ext heq.symm)
      rw [if_neg hij, List.append_nil, Function.update_of_ne hval]
      exact hprogram
  · rw [List.map_append, List.foldl_append, ← h.traffic]
    rfl

/-- A task is added. -/
theorem addTask (h : s.Logged v4 v6 takes log) (task : AgentTask) :
    (s.addTask task).Logged v4 v6 takes log := by
  refine ⟨h.program, h.traffic, h.taken, fun i a ha => ?_⟩
  obtain ⟨task', htask', harrival⟩ := h.tasks i a ha
  obtain ⟨hlt, -⟩ := List.getElem?_eq_some_iff.mp htask'
  exact ⟨task', (List.getElem?_append_left hlt).trans htask', harrival⟩

/-- **Where the threads get with such a log.** -/
theorem after_eq (h : s.Logged v4 v6 takes log) :
    ((Tasks.start v4 v6 (Threads.doneBy takes)).after (log.map Prod.fst)).shared = s.traffic
      ∧ ∀ i, ((Tasks.start v4 v6 (Threads.doneBy takes)).after (log.map Prod.fst)).todo i
        = s.todo i := by
  rw [h.traffic, Tasks.after, Tasks.start]
  exact ⟨Threads.run_log_shared h.program _, Threads.run_log_todo h.program _⟩

/-- Each datagram was taken by one of the loops. -/
theorem taken_eq_sum (h : s.Logged v4 v6 takes log) :
    (s.taken : Multiset Arrival) = ∑ i, (Threads.doneBy takes i : Multiset Arrival) := by
  rw [h.taken]
  exact Threads.sum_doneBy rfl (fun l l' => (Multiset.coe_add l l').symm) takes

end AgentLife.Logged

/-- The agent goes on, and nobody is left with something to do. -/
theorem AgentLife.Work.advance {a : AgentAction} (h : s.Work config v4 v6)
    (hdone : ∀ i, a = .handled i → s.todo i = []) :
    (s.advance config a).Work config v4 v6 := by
  obtain ⟨takes, log, hlogged⟩ := h.logged
  refine ⟨h.sound.step_any a, fun i hi => ?_, h.short, takes, log, hlogged.program,
    hlogged.traffic, hlogged.taken, hlogged.tasks⟩
  obtain ⟨rx, hloop⟩ := h.busy i hi
  exact ⟨rx, AgentState.handling_stays hloop fun ha => hi (hdone i ha)⟩

/-- The number of a loop. -/
theorem AgentLife.Work.lt_of_loop {i : Nat} {loop : ReceiveLoop} (h : s.Work config v4 v6)
    (hloop : s.agent.loops[i]? = some loop) :
    i < config.enabled.length + config.enabled.length := by
  obtain ⟨hlt, -⟩ := List.getElem?_eq_some_iff.mp hloop
  exact Nat.lt_of_lt_of_le hlt h.sound.counts.le

theorem AgentLife.Work.step {a : LifeAction} (h : s.Work config v4 v6)
    (hstep : s.Step config v4 v6 a s') :
    s'.Work config v4 v6 := by
  cases hstep with
  | idle hrun => exact h
  | advance hrun hphase hdone => exact h.advance hdone
  | @spawn family rx left iface bind task hphase hiface htask =>
      have hnext := h.advance (a := .run true) (by simp)
      obtain ⟨takes, log, hlogged⟩ := hnext.logged
      exact ⟨hnext.sound, hnext.busy, hnext.short, takes, log, hlogged.addTask task⟩
  | fail hphase hiface htask =>
      have hnext := h.advance (a := .run false) (by simp)
      obtain ⟨takes, log, hlogged⟩ := hnext.logged
      exact ⟨hnext.sound, hnext.busy, hnext.short, takes, log, hlogged.program, hlogged.traffic,
        hlogged.taken, hlogged.tasks⟩
  | @take i rx rx' incoming task a hloop hnext htask harrival =>
      have hnone : s.todo i = [] := by
        by_contra hsome
        obtain ⟨rx', hhandling⟩ := h.busy i hsome
        simp [hhandling] at hloop
      have hadvance := h.advance (a := .select i incoming.ready) (by simp)
      obtain ⟨takes, log, hlogged⟩ := hadvance.logged
      let loop : config.Loop := ⟨i, h.lt_of_loop hloop⟩
      refine ⟨hadvance.sound, ?_, ?_, _, log, hlogged.take (i := loop) hnone htask harrival⟩
      · exact (Function.forall_update_iff s.todo fun j effects => effects ≠ [] → ∃ rx,
          (s.advance config (.select i incoming.ready)).agent.loops[j]? = some ⟨rx, .handling⟩).mpr
          ⟨fun _ => ⟨rx', hnext⟩, fun j _ => hadvance.busy j⟩
      · exact (Function.forall_update_iff s.todo fun _ effects => effects.length ≤ 4).mpr
          ⟨a.length_effects_le, fun j _ => h.short j⟩
  | @act i rx e rest hloop htodo =>
      obtain ⟨takes, log, hlogged⟩ := h.logged
      let loop : config.Loop := ⟨i, h.lt_of_loop hloop⟩
      have hshort := h.short i
      rw [htodo, List.length_cons] at hshort
      refine ⟨h.sound, ?_, ?_, takes, _, hlogged.act (i := loop) htodo⟩
      · exact (Function.forall_update_iff s.todo fun j effects => effects ≠ [] → ∃ rx,
          s.agent.loops[j]? = some ⟨rx, .handling⟩).mpr ⟨fun _ => ⟨rx, hloop⟩, fun j _ => h.busy j⟩
      · exact (Function.forall_update_iff s.todo fun _ effects => effects.length ≤ 4).mpr
          ⟨Nat.le_of_succ_le hshort, fun j _ => h.short j⟩

theorem AgentLife.work_run (config : RelayConfig) (v4 : V4.Codec) (v6 : V6.Codec)
    (actions : List LifeAction) : (run (step config v4 v6) {} actions).Work config v4 v6 := by
  refine invariant (fun s a s' hstep hs => hs.step hstep) ?_ actions
  refine ⟨AgentState.sound_init, fun i hi => absurd rfl hi, fun i => Nat.zero_le 4,
    [], [], fun i => rfl, rfl, rfl, fun i a ha => ?_⟩
  simp [Threads.doneBy] at ha

/-- **An agent's loops are threads that share its counters and its network.** In every run, what
they have come to is what the tasks of `Tasks` come to with some of their interleavings, each
with the datagrams that it has taken, in the order in which it took them: the datagrams taken
are, in their order, those of `takes`, which says of each what loop it was that took it. -/
theorem AgentLife.refines_tasks (config : RelayConfig) (v4 : V4.Codec) (v6 : V6.Codec)
    (actions : List LifeAction) :
    let s := run (step config v4 v6) {} actions
    ∃ (takes : List (config.Loop × Arrival)) (turns : List config.Loop),
      s.taken = takes.map Prod.snd
        ∧ (∀ i, ∀ a ∈ Threads.doneBy takes i, ∃ task, s.tasks[i.val]? = some task
          ∧ ∃ incoming, task.arrival incoming = some a)
        ∧ ((Tasks.start v4 v6 (Threads.doneBy takes)).after turns).shared = s.traffic
        ∧ ∀ i, ((Tasks.start v4 v6 (Threads.doneBy takes)).after turns).todo i = s.todo i := by
  intro s
  obtain ⟨takes, log, hlogged⟩ := (work_run config v4 v6 actions).logged
  obtain ⟨hshared, htodo⟩ := hlogged.after_eq
  exact ⟨takes, log.map Prod.fst, hlogged.taken, hlogged.tasks, hshared, htodo⟩

/-- **An agent does nothing but handle what it takes.** At any point of a run, no counter is
ahead of where it is when all that was taken is handled, one datagram after the other; what has
been sent is some of what is sent then; and the counters fit each other. -/
theorem AgentLife.within_taken (config : RelayConfig) (v4 : V4.Codec) (v6 : V6.Codec)
    (actions : List LifeAction) :
    let s := run (step config v4 v6) {} actions
    let all := run (Traffic.handle v4 v6) {} s.taken
    (∀ c, s.traffic.stats.load c ≤ all.stats.load c)
      ∧ s.traffic.sent.Subperm all.sent
      ∧ s.traffic.stats.packetsForwarded + s.traffic.stats.packetsDroppedSpoof
        ≤ s.traffic.stats.packetsReceived
      ∧ s.traffic.stats.option82Stripped ≤ s.traffic.stats.packetsForwarded
      ∧ s.traffic.sent.length ≤ s.traffic.stats.packetsForwarded := by
  intro s all
  obtain ⟨takes, log, hlogged⟩ := (work_run config v4 v6 actions).logged
  have hall : all = run Traffic.act {} (s.taken.flatMap (Arrival.effects v4 v6)) :=
    run_handle _ _
  rw [hall, ← hlogged.after_eq.1]
  have hless := run_act_subperm (Tasks.ops_subperm v4 v6 (log.map Prod.fst) hlogged.taken_eq_sum) {}
  rw [← Tasks.after_shared] at hless
  exact ⟨hless.1, hless.2, Tasks.settled_le_received v4 v6 _ _,
    Tasks.stripped_le_forwarded v4 v6 _ _, Tasks.sent_le_forwarded v4 v6 _ _⟩

/-- **Where no loop has anything left to do**, all datagrams that were taken have been handled,
as if one after the other. -/
theorem AgentLife.Work.sequential (h : s.Work config v4 v6) (hdone : ∀ i, s.todo i = []) :
    s.traffic.stats = (run (Traffic.handle v4 v6) {} s.taken).stats
      ∧ s.traffic.sent.Perm (run (Traffic.handle v4 v6) {} s.taken).sent := by
  obtain ⟨takes, log, hlogged⟩ := h.logged
  obtain ⟨hshared, htodo⟩ := hlogged.after_eq
  have hfinished :
      ((Tasks.start v4 v6 (Threads.doneBy takes)).after (log.map Prod.fst)).Finished :=
    fun i => (htodo i).trans (hdone i)
  rw [← hshared, Tasks.after_shared, run_handle]
  exact run_act_perm (Tasks.ops_perm hfinished hlogged.taken_eq_sum) {}

/-! ### Stopping -/

/-- Who has news to leave keeps it when there is another shutdown. -/
theorem ReceiveLoop.Leaves.shutdown {s : AgentState} {loop : ReceiveLoop}
    (h : loop.Leaves s.channel) : loop.Leaves s.shutdown.channel := by
  rw [ReceiveLoop.leaves_iff] at h ⊢
  refine h.imp_right fun ⟨hnews, hvalue⟩ => ?_
  by_cases hunheard : s.channel.receivers = 0
  · have hsame : s.shutdown.channel = s.channel := if_pos hunheard
    rw [hsame]
    exact ⟨hnews, hvalue⟩
  · exact AgentState.told_shutdown hunheard (Nat.le_of_lt hnews)

/-- All tasks are there, and each of them leaves. -/
structure AgentState.Stopping (s : AgentState) : Prop where
  phase : s.phase = .awaiting
  loops : s.ShutDown

namespace AgentState.Stopping

variable {s : AgentState} {interfaces i : Nat} {loop : ReceiveLoop}

/-- No task is spawned any more. -/
theorem not_spawning (h : s.Stopping) {family : Family} {rx : Watch.Receiver} {left : Nat} :
    s.phase ≠ .spawning family rx left := by
  rw [h.phase]
  simp

theorem step (h : s.Stopping) (a : AgentAction) : (s.step interfaces a).Stopping := by
  refine ⟨AgentState.awaiting_run h.phase [a], fun loop' hloop' => ?_⟩
  by_cases ha : a = .shutdown
  · rw [ha] at hloop' ⊢
    exact (h.loops loop' hloop').shutdown
  · obtain ⟨i, hi⟩ := List.mem_iff_getElem?.mp hloop'
    rcases (s.step_inv interfaces ha).loop_cases hi with ⟨loop, hloop, -, hiff⟩
      | ⟨family, rx, left, hphase, -⟩
    · exact hiff.mpr (h.loops loop (List.mem_of_getElem? hloop))
    · exact absurd hphase h.not_spawning

/-- A loop that leaves may get to the end of what it is handling, and be left. -/
theorem loop_step (h : s.Stopping) (hloop : s.loops[i]? = some loop) (a : AgentAction) :
    ∃ loop', (s.step interfaces a).loops[i]? = some loop'
      ∧ (loop' = loop ∨ loop'.phase = .left
        ∨ loop.phase = .handling ∧ loop'.phase = .selecting) := by
  by_cases ha : a = .shutdown
  · rw [ha]
    exact ⟨loop, hloop, .inl rfl⟩
  · obtain ⟨loop', hloop', hnext, -⟩ := (s.step_inv interfaces ha).loop_stays hloop
    refine ⟨loop', hloop', hnext.imp_right fun hnext => ?_⟩
    exact hnext.of_leaves (h.loops loop (List.mem_of_getElem? hloop))

/-- Its select is its last. -/
theorem select (h : s.Stopping) (hloop : s.loops[i]? = some loop) (hphase : loop.phase = .selecting)
    (packet : Bool) :
    ∃ loop', (s.step interfaces (.select i packet)).loops[i]? = some loop'
      ∧ loop'.phase = .left := by
  obtain ⟨rx, phase⟩ := loop
  obtain rfl : phase = .selecting := hphase
  refine ⟨_, AgentState.loops_select packet hloop, ?_⟩
  exact (h.loops _ (List.mem_of_getElem? hloop)).resolve_left (by simp) packet

end AgentState.Stopping

/-- An agent that stops takes no datagram. -/
theorem AgentLife.Step.stopping {a : LifeAction} (h : s.Step config v4 v6 a s') (hs : s.agent.Stopping) :
    s'.agent.Stopping ∧ s'.taken = s.taken := by
  cases h with
  | idle hrun => exact ⟨hs, rfl⟩
  | advance hrun hphase hdone => exact ⟨hs.step _, rfl⟩
  | spawn hphase hiface htask => exact absurd hphase hs.not_spawning
  | fail hphase hiface htask => exact absurd hphase hs.not_spawning
  | @take i rx rx' incoming task a hloop hnext htask harrival =>
      obtain ⟨loop', hloop', hleft⟩ := hs.select hloop rfl incoming.ready
      obtain rfl := Option.some.inj (hloop'.symm.trans hnext)
      simp at hleft
  | act hloop htodo => exact ⟨hs, rfl⟩

/-- What a step is for a loop that leaves. -/
theorem AgentLife.Step.loop {a : LifeAction} {i : Nat} {loop : ReceiveLoop}
    (h : s.Step config v4 v6 a s') (hs : s.agent.Stopping) (hloop : s.agent.loops[i]? = some loop) :
    (s'.todo i).length ≤ (s.todo i).length ∧ ∃ loop', s'.agent.loops[i]? = some loop'
      ∧ (loop' = loop ∨ loop'.phase = .left
        ∨ loop.phase = .handling ∧ loop'.phase = .selecting) := by
  cases h with
  | idle hrun => exact ⟨Nat.le_refl _, loop, hloop, .inl rfl⟩
  | advance hrun hphase hdone => exact ⟨Nat.le_refl _, hs.loop_step hloop _⟩
  | spawn hphase hiface htask => exact absurd hphase hs.not_spawning
  | fail hphase hiface htask => exact absurd hphase hs.not_spawning
  | @take j rx rx' incoming task a hj hnext htask harrival =>
      obtain ⟨loop', hloop', hleft⟩ := hs.select hj rfl incoming.ready
      obtain rfl := Option.some.inj (hloop'.symm.trans hnext)
      simp at hleft
  | @act j rx e rest hj htodo =>
      refine ⟨?_, loop, hloop, .inl rfl⟩
      by_cases hij : i = j
      · rw [hij, todo_carryOut, Function.update_self, htodo]
        exact Nat.le_succ _
      · rw [todo_carryOut, Function.update_of_ne hij]

/-- The turns that a loop needs to be left: some to get to the end of what it is handling, more
than there are effects to carry out, and then one at its select. -/
def AgentLife.Due (i : Nat) (turns : List LifeAction) (s : AgentLife) : Prop :=
  s.agent.Stopping ∧ ∃ loop, s.agent.loops[i]? = some loop
    ∧ (loop.phase = .left ∨ ∃ k incoming, turns = List.replicate k (.act i) ++ [.select i incoming]
      ∧ (loop.phase = .selecting ∨ loop.phase = .handling ∧ (s.todo i).length < k))

theorem AgentLife.Due.keep {i : Nat} {turns : List LifeAction} (h : s.Due i turns)
    (a : LifeAction) : (s.step config v4 v6 a).Due i turns := by
  obtain ⟨hstopping, loop, hloop, hdue⟩ := h
  have hstep : s.Step config v4 v6 a (s.step config v4 v6 a) := s.step_inv a
  obtain ⟨htodo, loop', hloop', hnext⟩ := hstep.loop hstopping hloop
  refine ⟨(hstep.stopping hstopping).1, loop', hloop', ?_⟩
  rcases hdue with hleft | ⟨k, incoming, hturns, hphase⟩
  · rcases hnext with rfl | hleft' | ⟨hhandling, -⟩
    · exact .inl hleft
    · exact .inl hleft'
    · simp [hleft] at hhandling
  · rcases hnext with rfl | hleft' | ⟨-, hselecting⟩
    · exact .inr ⟨k, incoming, hturns,
        hphase.imp_right fun ⟨hhandling, hlt⟩ => ⟨hhandling, Nat.lt_of_le_of_lt htodo hlt⟩⟩
    · exact .inl hleft'
    · exact .inr ⟨k, incoming, hturns, .inl hselecting⟩

theorem AgentLife.Due.turn {i : Nat} {a : LifeAction} {turns : List LifeAction}
    (h : s.Due i (a :: turns)) : (s.step config v4 v6 a).Due i turns := by
  obtain ⟨hstopping, loop, hloop, hdue⟩ := h
  have hstep : s.Step config v4 v6 a (s.step config v4 v6 a) := s.step_inv a
  refine ⟨(hstep.stopping hstopping).1, ?_⟩
  rcases hdue with hleft | ⟨k, incoming, hturns, hphase⟩
  · obtain ⟨-, loop', hloop', hnext⟩ := hstep.loop hstopping hloop
    rcases hnext with rfl | hleft' | ⟨hhandling, -⟩
    · exact ⟨loop', hloop', .inl hleft⟩
    · exact ⟨loop', hloop', .inl hleft'⟩
    · simp [hleft] at hhandling
  · cases k with
    | zero =>
        obtain ⟨rfl, rfl⟩ := List.cons.inj hturns
        have hselecting : loop.phase = .selecting := by simpa using hphase
        obtain ⟨loop', hloop', hleft⟩ := hstopping.select hloop hselecting incoming.ready
        refine ⟨loop', ?_, .inl hleft⟩
        rw [step, agent_select]
        exact hloop'
    | succ k =>
        obtain ⟨rfl, rfl⟩ := List.cons.inj hturns
        obtain ⟨rx, phase⟩ := loop
        rw [step, act, hloop]
        rcases hphase with hselecting | ⟨hhandling, hlt⟩
        · obtain rfl : phase = .selecting := hselecting
          exact ⟨_, hloop, .inr ⟨k, incoming, rfl, .inl rfl⟩⟩
        · obtain rfl : phase = .handling := hhandling
          dsimp only
          cases htodo : s.todo i with
          | nil =>
              have hdone : (s.agent.step config.enabled.length (.handled i)).loops[i]?
                  = some ⟨rx, .selecting⟩ := AgentState.loops_handled hloop (by simp)
              exact ⟨_, hdone, .inr ⟨k, incoming, rfl, .inl rfl⟩⟩
          | cons e rest =>
              rw [htodo, List.length_cons] at hlt
              refine ⟨_, hloop, .inr ⟨k, incoming, rfl, .inr ⟨rfl, ?_⟩⟩⟩
              rw [todo_carryOut, Function.update_self]
              exact Nat.lt_of_succ_lt_succ hlt

/-- The turns in which a loop gets to the end of any datagram, and then to its select. -/
def LifeAction.turns (i : Nat) (incoming : Incoming) : List LifeAction :=
  List.replicate 5 (.act i) ++ [.select i incoming]

/-- A loop at which a shutdown has arrived is left with its next turns. -/
theorem AgentLife.left_of_turns {i : Nat} {loop : ReceiveLoop} {incoming : Incoming}
    {after : List LifeAction} (hwork : s.Work config v4 v6) (hs : s.agent.Stopping)
    (hloop : s.agent.loops[i]? = some loop)
    (hturns : (LifeAction.turns i incoming).Sublist after) :
    ∃ loop', (run (step config v4 v6) s after).agent.loops[i]? = some loop'
      ∧ loop'.phase = .left := by
  have hphase : loop.phase = .left
      ∨ loop.phase = .selecting ∨ loop.phase = .handling ∧ (s.todo i).length < 5 := by
    cases loop.phase with
    | selecting => exact .inr (.inl rfl)
    | handling => exact .inr (.inr ⟨rfl, Nat.lt_succ_of_le (hwork.short i)⟩)
    | left => exact .inl rfl
  obtain ⟨-, loop', hloop', hdue⟩ :=
    run_turns (I := Due i) (G := fun _ => True) (fun _ a _ _ hs => hs.keep a)
      (fun _ _ _ _ hs => hs.turn) hturns (fun _ _ => trivial)
      ⟨hs, loop, hloop, hphase.imp_right fun hphase => ⟨5, incoming, rfl, hphase⟩⟩
  refine ⟨loop', hloop', hdue.resolve_right ?_⟩
  rintro ⟨k, incoming, hnil, -⟩
  simp at hnil

/-- **A shutdown stops the tasks between datagrams.** Where `run` awaits its tasks and there has
been a shutdown since its second subscription, then, whatever else goes on (more shutdowns,
more datagrams, in any order), once each task has had its turns `run` has returned, no further
datagram has been taken, and those that were are all handled, as if one after the other. -/
theorem AgentLife.graceful_stop {actions after : List LifeAction} {later : List AgentAction}
    (hphase : (run (step config v4 v6) {} actions).agent.phase = .awaiting)
    (hsince : Since config.enabled.length .v6 (run (step config v4 v6) {} actions).trace later)
    (hshutdown : .shutdown ∈ later)
    (hturns : ∀ i < config.enabled.length + config.enabled.length, ∃ incoming,
      (LifeAction.turns i incoming).Sublist after) :
    let taken := (run (step config v4 v6) {} actions).taken
    let final := run (step config v4 v6) {} (actions ++ after)
    final.agent.Returned ∧ final.taken = taken
      ∧ final.traffic.stats = (run (Traffic.handle v4 v6) {} taken).stats
      ∧ final.traffic.sent.Perm (run (Traffic.handle v4 v6) {} taken).sent := by
  intro taken final
  have hwork := work_run config v4 v6 actions
  have hwork' := work_run config v4 v6 (actions ++ after)
  have hfinal : final = run (step config v4 v6) (run (step config v4 v6) {} actions) after :=
    run_append _ _ _ _
  have hstopping : (run (step config v4 v6) {} actions).agent.Stopping := by
    refine ⟨hphase, fun loop hloop => ?_⟩
    obtain ⟨i, hi⟩ := List.mem_iff_getElem?.mp hloop
    rw [agent_eq] at hi ⊢
    exact AgentState.leaves_of_v6 hsince hshutdown hi
  obtain ⟨hstopping', htaken⟩ : final.agent.Stopping ∧ final.taken = taken := by
    rw [hfinal]
    refine invariant (I := fun s => s.agent.Stopping ∧ s.taken = taken)
      (fun s a s' hstep hs => ?_) ⟨hstopping, rfl⟩ after
    obtain ⟨hnext, hsame⟩ := hstep.stopping hs.1
    exact ⟨hnext, hsame.trans hs.2⟩
  have hleft : ∀ loop ∈ final.agent.loops, loop.phase = .left := by
    intro loop hloop
    obtain ⟨i, hi⟩ := List.mem_iff_getElem?.mp hloop
    have hlt : i < config.enabled.length + config.enabled.length :=
      hwork'.lt_of_loop hi
    have hlength := hwork.sound.length_of_awaiting hphase
    have hfirst := List.getElem?_eq_getElem (Nat.lt_of_lt_of_eq hlt hlength.symm)
    obtain ⟨incoming, hsub⟩ := hturns i hlt
    obtain ⟨loop', hloop', hleft⟩ := left_of_turns hwork hstopping hfirst hsub
    rw [hfinal] at hi
    obtain rfl := Option.some.inj (hloop'.symm.trans hi)
    exact hleft
  have hdone : ∀ i, final.todo i = [] := by
    intro i
    by_contra hsome
    obtain ⟨rx, hhandling⟩ := hwork'.busy i hsome
    have hphase' := hleft _ (List.mem_of_getElem? hhandling)
    simp at hphase'
  refine ⟨⟨hstopping'.phase, hleft⟩, htaken, ?_⟩
  rw [← htaken]
  exact hwork'.sequential hdone

/-- The tasks of the sample have their turns. -/
def sampleLifeTurns : List LifeAction :=
  LifeAction.turns 1 .nothing ++ LifeAction.turns 0 (.datagram none [4, 5] V4.sampleClient)

/-- The sample's tasks are all left once they have had their turns. -/
theorem sampleLife_stopped :
    (run (AgentLife.step sampleLifeConfig V4.Wire.wire V6.Wire.wire) {}
      (sampleLife ++ sampleLifeTurns)).agent.Returned := by
  obtain ⟨hagent, htrace⟩ := sampleLife_agent V4.Wire.wire V6.Wire.wire
  have hsince : Since 1 .v6 (sampleStartup ++ [.select 0 true, .shutdown])
      [.run true, .run true, .select 0 true, .shutdown] :=
    ⟨[.run true, .run true, .run true], true, rfl, rfl⟩
  refine (AgentLife.graceful_stop (hagent ▸ rfl) (htrace ▸ hsince) (by simp) ?_).1
  intro i hi
  have hi : i < 1 + 1 := hi
  obtain rfl | rfl : i = 0 ∨ i = 1 := by omega
  · exact ⟨_, List.sublist_append_right _ _⟩
  · exact ⟨_, List.sublist_append_left _ _⟩

end DhcpRelay
