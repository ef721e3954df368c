import DhcpRelay.AgentWork

/-!
# DhcpRelay.AgentTasks

**What `run` comes to.** The two loops of `run`, over the interfaces for DHCPv4 and again for
DHCPv6, are one over its jobs (`RelayConfig.jobs`), and in any run each task is that of its
job.

* Where `run` awaits its tasks, they are what `RelayAgent.spawnTasks` comes to in one go; where it
  has failed, it is with the first job that cannot be done (`AgentLife.run_outcome`).
* It gets to one or the other, whatever happens in the meantime (`AgentLife.run_starts`).
-/

namespace DhcpRelay

open DhcpRelay.Library

/-! ### Jobs -/

/-- What `run` has to spawn tasks for, in order. -/
def RelayConfig.jobs (config : RelayConfig) : List (InterfaceConfig × Family) :=
  config.enabled.map (·, .v4) ++ config.enabled.map (·, .v6)

/-- The tasks that `run` awaits, where nothing goes on in the meantime. -/
def RelayAgent.spawnTasks (agent : RelayAgent) (bind : Binding) :
    RelayResult (List AgentTask) := do
  let tasks4 ← agent.spawnV4Tasks bind
  let tasks6 ← agent.spawnV6Tasks bind
  return tasks4.map .v4 ++ tasks6.map .v6

section

variable {α β γ ε : Type} {f : α → Except ε β} {as : List α}

theorem mapM_map_ok (f : α → Except ε β) (g : β → γ) (as : List α) :
    as.mapM (fun a => (f a).map g) = (as.mapM f).map (List.map g) := by
  induction as with
  | nil => rfl
  | cons a as ih =>
      rw [List.mapM_cons, List.mapM_cons, ih]
      cases f a with
      | error e => rfl
      | ok b => cases as.mapM f <;> rfl

/-- A list has these results where each of its elements has one of them. -/
theorem mapM_ok_of_map {bs : List β} (h : as.map f = bs.map .ok) : as.mapM f = .ok bs := by
  induction as generalizing bs with
  | nil =>
      obtain rfl := List.map_eq_nil_iff.mp h.symm
      rfl
  | cons a as ih =>
      cases bs with
      | nil => simp at h
      | cons b bs =>
          obtain ⟨ha, has⟩ := List.cons.inj h
          rw [List.mapM_cons, ha, ih has]
          rfl

/-- It has the error of its first element that has one. -/
theorem mapM_error_of_first {k : Nat} {a : α} {e : ε}
    (hbefore : ∀ i < k, ∀ a, as[i]? = some a → ∃ b, f a = .ok b) (ha : as[k]? = some a)
    (he : f a = .error e) : as.mapM f = .error e := by
  induction as generalizing k with
  | nil => simp at ha
  | cons first as ih =>
      rw [List.mapM_cons]
      cases k with
      | zero =>
          obtain rfl : first = a := Option.some.inj ha
          rw [he]
          rfl
      | succ k =>
          obtain ⟨b, hb⟩ := hbefore 0 (Nat.succ_pos k) first rfl
          have hrest := ih (fun i hi => hbefore (i + 1) (Nat.succ_lt_succ hi)) ha
          rw [hb, hrest]
          rfl

end

/-- **Both loops of `run` are one**, over its jobs. -/
theorem RelayAgent.spawnTasks_eq (agent : RelayAgent) (bind : Binding) :
    agent.spawnTasks bind
      = agent.config.jobs.mapM fun job => AgentTask.spawn agent.config bind job.1 job.2 := by
  have hv4 : agent.config.enabled.mapM (fun iface => AgentTask.spawn agent.config bind iface .v4)
      = (agent.spawnV4Tasks bind).map (List.map AgentTask.v4) :=
    mapM_map_ok _ _ _
  have hv6 : agent.config.enabled.mapM (fun iface => AgentTask.spawn agent.config bind iface .v6)
      = (agent.spawnV6Tasks bind).map (List.map AgentTask.v6) :=
    mapM_map_ok _ _ _
  rw [RelayConfig.jobs, List.mapM_append, List.mapM_map, List.mapM_map]
  show agent.spawnTasks bind = (do
    let tasks4 ← agent.config.enabled.mapM
      fun iface => AgentTask.spawn agent.config bind iface .v4
    let tasks6 ← agent.config.enabled.mapM
      fun iface => AgentTask.spawn agent.config bind iface .v6
    return tasks4 ++ tasks6)
  rw [hv4, hv6, spawnTasks]
  cases agent.spawnV4Tasks bind with
  | error e => rfl
  | ok tasks4 => cases agent.spawnV6Tasks bind <;> rfl

/-! ### Which task is which -/

variable {config : RelayConfig} {v4 : V4.Codec} {v6 : V6.Codec} {s s' : AgentLife}
  {actions : List LifeAction} {bind : Binding} {iface : InterfaceConfig} {family : Family}
  {task : AgentTask}

/-- A task that is spawned is one of its family. -/
theorem AgentTask.spawn_cases (h : AgentTask.spawn config bind iface family = .ok task) :
    (∃ task4, family = .v4 ∧ V4Task.spawn config bind iface = .ok task4 ∧ task = .v4 task4)
      ∨ ∃ task6, family = .v6 ∧ V6Task.spawn config bind iface = .ok task6 ∧ task = .v6 task6 := by
  cases family with
  | v4 =>
      rw [spawn] at h
      cases hspawn : V4Task.spawn config bind iface with
      | error e => simp [hspawn, Except.map] at h
      | ok task4 =>
          rw [hspawn] at h
          exact .inl ⟨task4, rfl, rfl, (Except.ok.inj h).symm⟩
  | v6 =>
      rw [spawn] at h
      cases hspawn : V6Task.spawn config bind iface with
      | error e => simp [hspawn, Except.map] at h
      | ok task6 =>
          rw [hspawn] at h
          exact .inr ⟨task6, rfl, rfl, (Except.ok.inj h).symm⟩

/-- A task that is spawned has its socket. -/
theorem AgentTask.spawn_bound (h : AgentTask.spawn config bind iface family = .ok task) :
    AgentTask.spawn config (fun _ => .ok ()) iface family = .ok task := by
  rcases spawn_cases h with ⟨task4, rfl, hspawn, rfl⟩ | ⟨task6, rfl, hspawn, rfl⟩
  · obtain ⟨bindAddr, hparse, -, rfl⟩ := V4Task.spawn_inv hspawn
    rw [spawn, V4Task.spawn, hparse]
    rfl
  · unfold V6Task.spawn at hspawn
    split at hspawn
    · simp at hspawn
    · next bindAddr hparse =>
        split at hspawn
        · simp at hspawn
        · obtain rfl := Except.ok.inj hspawn
          rw [spawn, V6Task.spawn, hparse]
          rfl

/-- What has come of the job with this number. -/
def LifeAction.SpawnsTo (config : RelayConfig) (actions : List LifeAction) (i : Nat)
    (result : RelayResult AgentTask) : Prop :=
  ∃ iface family bind, config.jobs[i]? = some (iface, family) ∧ .run bind ∈ actions
    ∧ AgentTask.spawn config bind iface family = result

theorem LifeAction.SpawnsTo.concat {i : Nat} {result : RelayResult AgentTask}
    (h : SpawnsTo config actions i result) (a : LifeAction) :
    SpawnsTo config (actions ++ [a]) i result := by
  obtain ⟨iface, family, bind, hjob, hmem, hspawn⟩ := h
  exact ⟨iface, family, bind, hjob, List.mem_append_left _ hmem, hspawn⟩

/-- The next job of `run` is that for the interface it has got to. -/
theorem AgentState.Sound.job {agent : AgentState} {family : Family} {rx : Watch.Receiver}
    {left : Nat} {iface : InterfaceConfig} (h : agent.Sound config.enabled.length)
    (hphase : agent.phase = .spawning family rx (left + 1))
    (hiface : config.enabled[config.enabled.length - (left + 1)]? = some iface) :
    config.jobs[agent.loops.length]? = some (iface, family) := by
  have hcounts := h.counts
  rw [hphase] at hcounts
  obtain ⟨hfirst, hsum⟩ := hcounts
  rw [RelayConfig.jobs]
  cases family with
  | v4 =>
      have hplace : agent.loops.length = config.enabled.length - (left + 1) := by
        rw [Family.first] at hsum
        omega
      have hlt : agent.loops.length < (config.enabled.map (·, Family.v4)).length := by
        rw [Family.first] at hsum
        rw [List.length_map]
        omega
      rw [List.getElem?_append_left hlt, List.getElem?_map, hplace, hiface]
      rfl
  | v6 =>
      have hplace : agent.loops.length - config.enabled.length
          = config.enabled.length - (left + 1) := by
        rw [Family.first] at hsum
        omega
      have hle : (config.enabled.map (·, Family.v4)).length ≤ agent.loops.length := by
        rw [List.length_map]
        exact hfirst
      rw [List.getElem?_append_right hle, List.length_map, List.getElem?_map, hplace, hiface]
      rfl

/-- A step of the agent in which no task is spawned, and `run` does not fail. -/
theorem AgentState.step_of_not_spawning {agent : AgentState} {interfaces : Nat} {a : AgentAction}
    (hrun : ∀ bound family rx left, a = .run bound → agent.phase ≠ .spawning family rx (left + 1)) :
    (agent.step interfaces a).loops.length = agent.loops.length
      ∧ ((agent.step interfaces a).phase = .failed → agent.phase = .failed) := by
  cases a with
  | run bound =>
      rw [step]
      unfold advance
      split
      · exact ⟨rfl, by simp⟩
      · next family rx hphase =>
          refine ⟨rfl, fun hfailed => ?_⟩
          cases family <;> simp [RunPhase.after] at hfailed
      · next family rx left hphase => exact absurd hphase (hrun bound family rx left rfl)
      · exact ⟨rfl, id⟩
      · exact ⟨rfl, id⟩
  | shutdown => exact ⟨rfl, id⟩
  | select i packet =>
      rw [AgentState.phase_step (by simp)]
      refine ⟨?_, id⟩
      rw [step]
      unfold select
      split
      · exact List.length_set
      · rfl
  | handled i =>
      rw [AgentState.phase_step (by simp)]
      refine ⟨?_, id⟩
      rw [step]
      unfold handled
      split
      · exact List.length_set
      · rfl

/-- **Each loop has the task of its job**, and `run` fails with what keeps the next task from
being spawned. -/
structure AgentLife.Staffed (config : RelayConfig) (actions : List LifeAction) (s : AgentLife) :
    Prop where
  length_eq : s.tasks.length = s.agent.loops.length
  tasks : ∀ i task, s.tasks[i]? = some task → LifeAction.SpawnsTo config actions i (.ok task)
  failed : s.agent.phase = .failed →
    ∃ e, s.error = some e ∧ LifeAction.SpawnsTo config actions s.tasks.length (.error e)
  taken : ∀ a ∈ s.taken, ∃ task ∈ s.tasks, ∃ incoming, task.arrival incoming = some a

/-- Something else happens. -/
theorem AgentLife.Staffed.concat (h : s.Staffed config actions) (a : LifeAction) :
    s.Staffed config (actions ++ [a]) := by
  refine ⟨h.length_eq, fun i task htask => (h.tasks i task htask).concat a, fun hphase => ?_,
    h.taken⟩
  obtain ⟨e, herror, hspawns⟩ := h.failed hphase
  exact ⟨e, herror, hspawns.concat a⟩

theorem AgentLife.Staffed.advance {next : AgentAction} (h : s.Staffed config actions)
    (hphase : ∀ bound family rx left, next = .run bound →
      s.agent.phase ≠ .spawning family rx (left + 1)) :
    (s.advance config next).Staffed config actions := by
  have hnext : (s.agent.step config.enabled.length next).loops.length = s.agent.loops.length
      ∧ ((s.agent.step config.enabled.length next).phase = .failed → s.agent.phase = .failed) :=
    AgentState.step_of_not_spawning hphase
  obtain ⟨hlength, hfailed⟩ := hnext
  exact ⟨h.length_eq.trans hlength.symm, h.tasks, fun hphase => h.failed (hfailed hphase), h.taken⟩

theorem AgentLife.Staffed.step {a : LifeAction} (h : s.Staffed config actions)
    (hsound : s.agent.Sound config.enabled.length) (hstep : s.Step config v4 v6 a s') :
    s'.Staffed config (actions ++ [a]) := by
  have hold := h.concat a
  cases hstep with
  | idle hrun => exact hold
  | advance hrun hphase hdone => exact hold.advance hphase
  | @spawn family rx left iface bind task hphase hiface htask =>
      have hnext : s.agent.step config.enabled.length (.run true)
          = { channel := (s.agent.channel.clone rx).1
              phase := .spawning family rx left
              loops := s.agent.loops ++ [{ rx := rx }] } := by
        rw [AgentState.step, AgentState.advance, hphase]
        rfl
      refine ⟨?_, fun i task' htask' => ?_, fun hfailed => ?_, fun a ha => ?_⟩
      · show (s.tasks ++ [task]).length
          = (s.agent.step config.enabled.length (.run true)).loops.length
        rw [hnext, List.length_append, List.length_append, h.length_eq]
        rfl
      · rcases getElem?_concat_cases htask' with hbefore | ⟨rfl, rfl⟩
        · exact hold.tasks i task' hbefore
        · have hjob := hsound.job hphase hiface
          rw [← h.length_eq] at hjob
          exact ⟨iface, family, bind, hjob, by simp, htask⟩
      · have hfailed : (s.agent.step config.enabled.length (.run true)).phase = .failed := hfailed
        rw [hnext] at hfailed
        simp at hfailed
      · obtain ⟨task', hmem, harrival⟩ := h.taken a ha
        exact ⟨task', List.mem_append_left _ hmem, harrival⟩
  | @fail family rx left iface bind e hphase hiface htask =>
      have hnext : s.agent.step config.enabled.length (.run false)
          = { s.agent with channel := s.agent.channel.drop, phase := .failed } := by
        rw [AgentState.step, AgentState.advance, hphase]
        rfl
      have hjob := hsound.job hphase hiface
      rw [← h.length_eq] at hjob
      refine ⟨?_, hold.tasks, fun _ => ⟨e, rfl, iface, family, bind, hjob, by simp, htask⟩, h.taken⟩
      show s.tasks.length = (s.agent.step config.enabled.length (.run false)).loops.length
      rw [hnext]
      exact h.length_eq
  | @take i rx rx' incoming task a hloop hnext htask harrival =>
      have hadvance : (s.advance config (.select i incoming.ready)).Staffed config
          (actions ++ [.select i incoming]) := hold.advance (by simp)
      refine ⟨hadvance.length_eq, hadvance.tasks, hadvance.failed, fun a' ha' => ?_⟩
      rcases List.mem_append.mp ha' with hbefore | hnew
      · exact h.taken a' hbefore
      · obtain rfl := List.mem_singleton.mp hnew
        exact ⟨task, List.mem_of_getElem? htask, incoming, harrival⟩
  | act hloop htodo => exact ⟨h.length_eq, hold.tasks, hold.failed, h.taken⟩

theorem AgentLife.staffed_run (config : RelayConfig) (v4 : V4.Codec) (v6 : V6.Codec)
    (actions : List LifeAction) : (run (step config v4 v6) {} actions).Staffed config actions := by
  refine run_induction (P := fun actions (s : AgentLife) => s.Staffed config actions) ?_ ?_ actions
  · refine ⟨rfl, fun i task htask => ?_, fun hfailed => ?_, fun a ha => ?_⟩
    · simp at htask
    · simp at hfailed
    · simp at ha
  · intro actions a h
    exact h.step (work_run config v4 v6 actions).sound (step_inv _ a)

/-- What is taken is taken by a task that was spawned for an interface. -/
theorem AgentLife.Staffed.spawnedBy (h : s.Staffed config actions) {a : Arrival}
    (ha : a ∈ s.taken) : a.SpawnedBy config := by
  obtain ⟨task, htask, incoming, harrival⟩ := h.taken a ha
  obtain ⟨i, hi⟩ := List.mem_iff_getElem?.mp htask
  obtain ⟨iface, family, bind, hjob, -, hspawn⟩ := h.tasks i task hi
  have hmem : iface ∈ config.interfaces := by
    have henabled : iface ∈ config.enabled := by
      have hmem := List.mem_of_getElem? hjob
      rcases List.mem_append.mp hmem with hmem | hmem
      · obtain ⟨_, henabled, heq⟩ := List.mem_map.mp hmem
        exact (Prod.mk.inj heq).1 ▸ henabled
      · obtain ⟨_, henabled, heq⟩ := List.mem_map.mp hmem
        exact (Prod.mk.inj heq).1 ▸ henabled
    exact (List.mem_filter.mp henabled).1
  cases incoming with
  | nothing => simp [AgentTask.arrival] at harrival
  | failed => simp [AgentTask.arrival] at harrival
  | datagram localAddr data src =>
      rcases AgentTask.spawn_cases hspawn with ⟨task4, -, htask4, rfl⟩ | ⟨task6, -, htask6, rfl⟩
      · obtain rfl : .v4 task4 data src = a := Option.some.inj harrival
        exact ⟨iface, hmem, bind, htask4⟩
      · obtain rfl : .v6 task6 localAddr data src = a := Option.some.inj harrival
        exact ⟨iface, hmem, bind, htask6⟩

/-- Where all tasks have been spawned, they are those of the configuration. -/
theorem AgentLife.Staffed.spawnTasks_ok {agent : RelayAgent} (h : s.Staffed agent.config actions)
    (hlength : s.tasks.length = agent.config.jobs.length)
    (hbind : ∀ bind' iface family task, .run bind' ∈ actions →
      AgentTask.spawn agent.config bind' iface family = .ok task →
        AgentTask.spawn agent.config bind iface family = .ok task) :
    agent.spawnTasks bind = .ok s.tasks := by
  rw [RelayAgent.spawnTasks_eq]
  refine mapM_ok_of_map (List.ext_getElem? fun i => ?_)
  rw [List.getElem?_map, List.getElem?_map]
  by_cases hi : i < s.tasks.length
  · have hsome := List.getElem?_eq_getElem hi
    obtain ⟨iface, family, bind', hjob, hmem, hspawn⟩ := h.tasks i _ hsome
    rw [hsome, hjob]
    exact congrArg some (hbind _ _ _ _ hmem hspawn)
  · rw [List.getElem?_eq_none_iff.mpr (by omega), List.getElem?_eq_none_iff.mpr (by omega)]
    rfl

/-- Where `run` has failed, it is with the first job that cannot be done. -/
theorem AgentLife.Staffed.spawnTasks_error {agent : RelayAgent}
    (h : s.Staffed agent.config actions) (hphase : s.agent.phase = .failed)
    (hbind : ∀ bind', .run bind' ∈ actions → bind' = bind) :
    ∃ e, s.error = some e ∧ agent.spawnTasks bind = .error e := by
  obtain ⟨e, herror, iface, family, bind', hjob, hmem, hspawn⟩ := h.failed hphase
  obtain rfl := hbind bind' hmem
  refine ⟨e, herror, ?_⟩
  rw [RelayAgent.spawnTasks_eq]
  refine mapM_error_of_first (fun i hi job hjob' => ?_) hjob hspawn
  obtain ⟨iface', family', bind'', hjob'', hmem', hspawn'⟩ :=
    h.tasks i _ (List.getElem?_eq_getElem hi)
  obtain rfl := Option.some.inj (hjob''.symm.trans hjob')
  obtain rfl := hbind bind'' hmem'
  exact ⟨_, hspawn'⟩

/-- There are two jobs for an interface. -/
theorem RelayConfig.length_jobs (config : RelayConfig) :
    config.jobs.length = config.enabled.length + config.enabled.length := by
  rw [jobs, List.length_append, List.length_map, List.length_map]

/-- **What comes of `run`.** Where it awaits its tasks, these are those of `spawn_v4_tasks` and
then those of `spawn_v6_tasks`; where it has failed, it is with what kept the next task from
being spawned; and every datagram was taken by a task that was spawned for an interface of the
configuration. -/
theorem AgentLife.run_outcome {agent : RelayAgent} (hnew : RelayAgent.new config = .ok agent)
    (v4 : V4.Codec) (v6 : V6.Codec) (actions : List LifeAction) :
    let s := run (step config v4 v6) {} actions
    (s.agent.phase = .awaiting → agent.spawnTasks (fun _ => .ok ()) = .ok s.tasks)
      ∧ (s.agent.phase = .failed →
        ∃ e, s.error = some e ∧ LifeAction.SpawnsTo config actions s.tasks.length (.error e))
      ∧ ∀ a ∈ s.taken, a.SpawnedBy config := by
  intro s
  obtain ⟨rfl, -⟩ := RelayAgent.new_inv hnew
  have hstaffed : s.Staffed agent.config actions := staffed_run agent.config v4 v6 actions
  have hwork : s.Work agent.config v4 v6 := work_run agent.config v4 v6 actions
  refine ⟨fun hphase => ?_, hstaffed.failed, fun a ha => hstaffed.spawnedBy ha⟩
  have hlength := hstaffed.length_eq.trans (hwork.sound.length_of_awaiting hphase)
  exact hstaffed.spawnTasks_ok (hlength.trans agent.config.length_jobs.symm)
    fun _ _ _ _ _ => AgentTask.spawn_bound

/-- The sample agent awaits its tasks, so they are those of its configuration. -/
theorem sampleLife_outcome :
    (RelayAgent.mk sampleLifeConfig {}).spawnTasks (fun _ => .ok ())
      = .ok (run (AgentLife.step sampleLifeConfig V4.Wire.wire V6.Wire.wire) {} sampleLife).tasks := by
  have hnew : RelayAgent.new sampleLifeConfig = .ok (RelayAgent.mk sampleLifeConfig {}) :=
    sampleAgent_new none none
  refine (AgentLife.run_outcome hnew V4.Wire.wire V6.Wire.wire sampleLife).1 ?_
  rw [(sampleLife_agent V4.Wire.wire V6.Wire.wire).1]
  rfl

/-! ### Getting there -/

/-- How many turns `run` needs to an outcome, at most. -/
def RunPhase.toGo (interfaces : Nat) : RunPhase → Nat
  | .before .v4 => (interfaces + 2) + (interfaces + 2)
  | .spawning .v4 _ left => (left + 1) + (interfaces + 2)
  | .before .v6 => interfaces + 2
  | .spawning .v6 _ left => left + 1
  | .awaiting | .failed => 0

theorem RunPhase.outcome_of_toGo {interfaces : Nat} {phase : RunPhase}
    (h : phase.toGo interfaces = 0) : phase = .awaiting ∨ phase = .failed := by
  cases phase with
  | before family => cases family <;> simp [toGo] at h
  | spawning family rx left => cases family <;> simp [toGo] at h
  | awaiting => exact .inl rfl
  | failed => exact .inr rfl

/-- Each turn of `run` counts. -/
theorem AgentState.toGo_advance (agent : AgentState) (interfaces : Nat) (bound : Bool) :
    (agent.advance interfaces bound).phase.toGo interfaces
      ≤ agent.phase.toGo interfaces - 1 := by
  unfold advance
  split
  · next family hphase =>
      cases family <;> simp only [hphase, RunPhase.toGo] <;> omega
  · next family rx hphase => cases family <;> simp [hphase, RunPhase.toGo, RunPhase.after]
  · next family rx left hphase =>
      split
      · cases family <;> simp only [hphase, RunPhase.toGo] <;> omega
      · exact Nat.zero_le _
  · next hphase => simp [hphase, RunPhase.toGo]
  · next hphase => simp [hphase, RunPhase.toGo]

def LifeAction.isRun : LifeAction → Bool
  | .run _ => true
  | _ => false

theorem AgentLife.Step.toGo_le {a : LifeAction} (h : s.Step config v4 v6 a s')
    (hsound : s.agent.Sound config.enabled.length) :
    s'.agent.phase.toGo config.enabled.length
      ≤ s.agent.phase.toGo config.enabled.length - if a.isRun then 1 else 0 := by
  cases h with
  | idle hrun =>
      cases a with
      | run bind =>
          obtain ⟨family, rx, left, hphase, hle⟩ := hrun bind rfl
          have hcounts := hsound.counts
          rw [hphase] at hcounts
          obtain ⟨hfirst, hsum⟩ := hcounts
          omega
      | shutdown => exact Nat.le_refl _
      | select i incoming => exact Nat.le_refl _
      | act i => exact Nat.le_refl _
  | @advance _ next hrun hphase hdone =>
      cases a with
      | run bind =>
          obtain ⟨bound, rfl⟩ := hrun.mp ⟨bind, rfl⟩
          exact AgentState.toGo_advance _ _ bound
      | shutdown | select i incoming | act i =>
          have hnext : (s.agent.step config.enabled.length next).phase = s.agent.phase :=
            AgentState.phase_step fun bound heq => by simpa using hrun.mpr ⟨bound, heq⟩
          exact Nat.le_of_eq (congrArg _ hnext)
  | spawn hphase hiface htask => exact AgentState.toGo_advance _ _ true
  | fail hphase hiface htask => exact AgentState.toGo_advance _ _ false
  | @take i rx rx' incoming task a hloop hnext htask harrival =>
      have hsame : (s.agent.step config.enabled.length (.select i incoming.ready)).phase
          = s.agent.phase := AgentState.phase_step (by simp)
      exact Nat.le_of_eq (congrArg _ hsame)
  | act hloop htodo => exact Nat.le_refl _

theorem AgentLife.toGo_run (config : RelayConfig) (v4 : V4.Codec) (v6 : V6.Codec)
    (actions : List LifeAction) :
    (run (step config v4 v6) {} actions).agent.phase.toGo config.enabled.length
      ≤ (config.enabled.length + 2) + (config.enabled.length + 2)
        - actions.countP LifeAction.isRun := by
  refine run_induction (P := fun actions (s : AgentLife) => s.agent.phase.toGo config.enabled.length
    ≤ (config.enabled.length + 2) + (config.enabled.length + 2)
      - actions.countP LifeAction.isRun) (Nat.le_refl _) ?_ actions
  intro actions a h
  have hinv : Step config v4 v6 (run (step config v4 v6) {} actions) a _ := step_inv _ a
  have hstep := hinv.toGo_le (work_run config v4 v6 actions).sound
  rw [List.countP_append, List.countP_singleton]
  omega

/-- **`run` starts up or fails**, as the interfaces and the sockets have it, and whatever goes on
in the meantime: where the sockets that can be bound stay the same and it gets its turns, it
awaits exactly the tasks that `spawnTasks` comes to in one go, or has its error. -/
theorem AgentLife.run_starts {agent : RelayAgent} (hnew : RelayAgent.new config = .ok agent)
    (v4 : V4.Codec) (v6 : V6.Codec) (hbind : ∀ bind', .run bind' ∈ actions → bind' = bind)
    (hturns : (config.enabled.length + 2) + (config.enabled.length + 2)
      ≤ actions.countP LifeAction.isRun) :
    let s := run (step config v4 v6) {} actions
    (∀ tasks, agent.spawnTasks bind = .ok tasks → s.agent.phase = .awaiting ∧ s.tasks = tasks)
      ∧ ∀ e, agent.spawnTasks bind = .error e → s.agent.phase = .failed ∧ s.error = some e := by
  intro s
  obtain ⟨rfl, -⟩ := RelayAgent.new_inv hnew
  have hstaffed : s.Staffed agent.config actions := staffed_run agent.config v4 v6 actions
  have hwork : s.Work agent.config v4 v6 := work_run agent.config v4 v6 actions
  have htoGo : s.agent.phase.toGo agent.config.enabled.length = 0 := by
    have hle := toGo_run agent.config v4 v6 actions
    rw [Nat.sub_eq_zero_of_le hturns] at hle
    exact Nat.le_zero.mp hle
  rcases RunPhase.outcome_of_toGo htoGo with hphase | hphase
  · have hlength := hstaffed.length_eq.trans (hwork.sound.length_of_awaiting hphase)
    have hok : agent.spawnTasks bind = .ok s.tasks := by
      refine hstaffed.spawnTasks_ok (hlength.trans agent.config.length_jobs.symm) ?_
      intro bind' iface family task hmem hspawn
      exact hbind bind' hmem ▸ hspawn
    refine ⟨fun tasks htasks => ⟨hphase, ?_⟩, fun e he => ?_⟩
    · exact Except.ok.inj (hok.symm.trans htasks)
    · simp [hok] at he
  · obtain ⟨e, herror, hfails⟩ := hstaffed.spawnTasks_error hphase hbind
    refine ⟨fun tasks htasks => ?_, fun e' he' => ⟨hphase, ?_⟩⟩
    · simp [hfails] at htasks
    · rw [herror, Except.error.inj (hfails.symm.trans he')]

/-- The sample agent starts up in six turns, with a task of each family. -/
theorem sampleLife_starts :
    (run (AgentLife.step sampleLifeConfig V4.Wire.wire V6.Wire.wire) {} sampleLife).agent.phase
        = .awaiting
      ∧ (run (AgentLife.step sampleLifeConfig V4.Wire.wire V6.Wire.wire) {} sampleLife).tasks
        = [sampleTask4, sampleTask6] := by
  have hnew : RelayAgent.new sampleLifeConfig = .ok (RelayAgent.mk sampleLifeConfig {}) :=
    sampleAgent_new none none
  have hjobs : sampleLifeConfig.jobs.map
      (fun job => AgentTask.spawn sampleLifeConfig (fun _ => .ok ()) job.1 job.2)
      = [.ok sampleTask4, .ok sampleTask6] := by
    show [AgentTask.spawn sampleLifeConfig (fun _ => .ok ()) sampleInterface .v4,
      AgentTask.spawn sampleLifeConfig (fun _ => .ok ()) sampleInterface .v6] = _
    rw [sampleTask4_spawn, sampleTask6_spawn]
  have hspawn : (RelayAgent.mk sampleLifeConfig {}).spawnTasks (fun _ => .ok ())
      = .ok [sampleTask4, sampleTask6] := by
    rw [RelayAgent.spawnTasks_eq]
    exact mapM_ok_of_map hjobs
  refine (AgentLife.run_starts hnew V4.Wire.wire V6.Wire.wire ?_ (by decide)).1 _ hspawn
  intro bind' hmem
  simpa [sampleLife] using hmem

end DhcpRelay
