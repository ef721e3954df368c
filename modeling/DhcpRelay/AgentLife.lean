import DhcpRelay.AgentConcurrent
import DhcpRelay.AgentStop

/-!
# DhcpRelay.AgentLife

**An agent from `run` to its end**, in one state machine. `AgentStop` is about `run`, the
shutdown channel and the loops, and leaves open what the tasks are and what they do with a
packet; `AgentConcurrent` is about that, and leaves open where packets come from and when they
stop. Here `run` spawns the tasks of a configuration, a loop whose select gets a datagram has
its effects to carry out, one at a time, and goes back to its select when there are none left;
all this in any order.

* What a step can do is said once (`AgentLife.step_inv`).
* `run`, the channel and the loops are as in `AgentState` (`AgentLife.agent_eq`).
-/

namespace DhcpRelay

open DhcpRelay.Library

/-! ### Tasks and what they get -/

/-- A task of either family. -/
inductive AgentTask
  | v4 (task : V4Task)
  | v6 (task : V6Task)

/-- What a loop has from its socket at its select: nothing yet, an error, or a datagram. -/
inductive Incoming
  | nothing
  | failed
  | datagram (localAddr : Option SocketAddr) (data : Bytes) (src : SocketAddr)

/-- Whether `recv_from` is done. -/
def Incoming.ready : Incoming → Bool
  | nothing => false
  | failed | datagram .. => true

/-- The datagram, at a task. -/
def AgentTask.arrival (task : AgentTask) : Incoming → Option Arrival
  | .nothing | .failed => none
  | .datagram localAddr data src =>
    match task with
    | v4 task => some (.v4 task data src)
    | v6 task => some (.v6 task localAddr data src)

/-- The interfaces that `run` goes through, for each family. -/
def RelayConfig.enabled (config : RelayConfig) : List InterfaceConfig :=
  config.interfaces.filter (·.enabled)

/-- What comes of binding a socket to an address. -/
abbrev Binding : Type := SocketAddr → Except String Unit

/-- One round of the loop of `spawn_v4_tasks` or `spawn_v6_tasks`. -/
def AgentTask.spawn (config : RelayConfig) (bind : Binding) (iface : InterfaceConfig) :
    Family → RelayResult AgentTask
  | .v4 => (V4Task.spawn config bind iface).map v4
  | .v6 => (V6Task.spawn config bind iface).map v6

/-! ### The state machine -/

/-- An agent, with all that its parties do. -/
structure AgentLife where
  /-- `run`, the shutdown channel and the loops, -/
  agent : AgentState := {}
  /-- and how these have got there. -/
  trace : List AgentAction := []
  /-- What `run` has failed with. -/
  error : Option RelayError := none
  /-- The task of each loop. -/
  tasks : List AgentTask := []
  /-- What each loop has yet to do with the datagram it is handling. -/
  todo : Nat → List Effect := fun _ => []
  traffic : Traffic := {}
  /-- All datagrams that loops have got. -/
  taken : List Arrival := []

/-- One step of one of the parties. -/
inductive LifeAction
  /-- `run` goes on. If it is to bind a socket, this is what comes of it. -/
  | run (bind : Binding)
  /-- `shutdown` is called. -/
  | shutdown
  /-- A loop is at its select. -/
  | select (i : Nat) (incoming : Incoming)
  /-- A loop goes on with a datagram. -/
  | act (i : Nat)

namespace AgentLife

/-- One of the parties goes on, as in `AgentState`. -/
def advance (config : RelayConfig) (a : AgentAction) (s : AgentLife) : AgentLife :=
  { s with agent := s.agent.step config.enabled.length a, trace := s.trace ++ [a] }

/-- `run` has spawned a task. -/
def addTask (task : AgentTask) (s : AgentLife) : AgentLife := { s with tasks := s.tasks ++ [task] }

/-- A loop gets a datagram. -/
def take (v4 : V4.Codec) (v6 : V6.Codec) (i : Nat) (a : Arrival) (s : AgentLife) : AgentLife :=
  { s with todo := Function.update s.todo i (a.effects v4 v6), taken := s.taken ++ [a] }

/-- A loop carries out an effect, with others to follow. -/
def carryOut (i : Nat) (e : Effect) (rest : List Effect) (s : AgentLife) : AgentLife :=
  { s with traffic := s.traffic.act e, todo := Function.update s.todo i rest }

/-- `run` goes on. -/
def goOn (config : RelayConfig) (bind : Binding) (s : AgentLife) : AgentLife :=
  match s.agent.phase with
  | .spawning family _ (left + 1) =>
    match config.enabled[config.enabled.length - (left + 1)]? with
    | none => s
    | some iface =>
      match AgentTask.spawn config bind iface family with
      | .ok task => (s.advance config (.run true)).addTask task
      | .error e => { s.advance config (.run false) with error := some e }
  | _ => s.advance config (.run true)

/-- A loop is at its select. If it gets a datagram, it has its effects to carry out. -/
def select (config : RelayConfig) (v4 : V4.Codec) (v6 : V6.Codec) (i : Nat) (incoming : Incoming)
    (s : AgentLife) : AgentLife :=
  let next := s.advance config (.select i incoming.ready)
  match s.agent.loops[i]?, next.agent.loops[i]?, s.tasks[i]?.bind (·.arrival incoming) with
  | some ⟨_, .selecting⟩, some ⟨_, .handling⟩, some a => next.take v4 v6 i a
  | _, _, _ => next

/-- A loop that is handling a datagram carries out its next effect, or is done. -/
def act (config : RelayConfig) (i : Nat) (s : AgentLife) : AgentLife :=
  match s.agent.loops[i]? with
  | some ⟨_, .handling⟩ =>
    match s.todo i with
    | [] => s.advance config (.handled i)
    | e :: rest => s.carryOut i e rest
  | _ => s

def step (config : RelayConfig) (v4 : V4.Codec) (v6 : V6.Codec) (s : AgentLife) :
    LifeAction → AgentLife
  | .run bind => s.goOn config bind
  | .shutdown => s.advance config .shutdown
  | .select i incoming => s.select config v4 v6 i incoming
  | .act i => s.act config i

theorem todo_take {v4 : V4.Codec} {v6 : V6.Codec} {i : Nat} {a : Arrival} {s : AgentLife} :
    (s.take v4 v6 i a).todo = Function.update s.todo i (a.effects v4 v6) := rfl

theorem todo_carryOut {i : Nat} {e : Effect} {rest : List Effect} {s : AgentLife} :
    (s.carryOut i e rest).todo = Function.update s.todo i rest := rfl

end AgentLife

section

variable {config : RelayConfig} {v4 : V4.Codec} {v6 : V6.Codec} {s s' : AgentLife}

/-- **What a step does.** -/
inductive AgentLife.Step (config : RelayConfig) (v4 : V4.Codec) (v6 : V6.Codec) (s : AgentLife) :
    LifeAction → AgentLife → Prop
  /-- Nothing. -/
  | idle {a : LifeAction}
      (hrun : ∀ bind, a = .run bind → ∃ family rx left,
        s.agent.phase = .spawning family rx (left + 1) ∧ config.enabled.length ≤ left) :
      Step config v4 v6 s a s
  /-- One of the parties goes on, and no task is spawned, nothing taken and nothing left over. -/
  | advance {a : LifeAction} {next : AgentAction}
      (hrun : (∃ bind, a = .run bind) ↔ ∃ bound, next = .run bound)
      (hphase : ∀ bound family rx left, next = .run bound →
        s.agent.phase ≠ .spawning family rx (left + 1))
      (hdone : ∀ i, next = .handled i → s.todo i = []) :
      Step config v4 v6 s a (s.advance config next)
  /-- `run` spawns a task. -/
  | spawn {family : Family} {rx : Watch.Receiver} {left : Nat} {iface : InterfaceConfig}
      {bind : Binding} {task : AgentTask}
      (hphase : s.agent.phase = .spawning family rx (left + 1))
      (hiface : config.enabled[config.enabled.length - (left + 1)]? = some iface)
      (htask : AgentTask.spawn config bind iface family = .ok task) :
      Step config v4 v6 s (.run bind) ((s.advance config (.run true)).addTask task)
  /-- It fails. -/
  | fail {family : Family} {rx : Watch.Receiver} {left : Nat} {iface : InterfaceConfig}
      {bind : Binding} {e : RelayError}
      (hphase : s.agent.phase = .spawning family rx (left + 1))
      (hiface : config.enabled[config.enabled.length - (left + 1)]? = some iface)
      (htask : AgentTask.spawn config bind iface family = .error e) :
      Step config v4 v6 s (.run bind) { s.advance config (.run false) with error := some e }
  /-- A loop takes a datagram. -/
  | take {i : Nat} {rx rx' : Watch.Receiver} {incoming : Incoming} {task : AgentTask} {a : Arrival}
      (hloop : s.agent.loops[i]? = some ⟨rx, .selecting⟩)
      (hnext : (s.agent.step config.enabled.length (.select i incoming.ready)).loops[i]?
        = some ⟨rx', .handling⟩)
      (htask : s.tasks[i]? = some task) (harrival : task.arrival incoming = some a) :
      Step config v4 v6 s (.select i incoming)
        ((s.advance config (.select i incoming.ready)).take v4 v6 i a)
  /-- A loop carries out an effect. -/
  | act {i : Nat} {rx : Watch.Receiver} {e : Effect} {rest : List Effect}
      (hloop : s.agent.loops[i]? = some ⟨rx, .handling⟩) (htodo : s.todo i = e :: rest) :
      Step config v4 v6 s (.act i) (s.carryOut i e rest)

theorem AgentLife.step_inv (s : AgentLife) (a : LifeAction) :
    s.Step config v4 v6 a (s.step config v4 v6 a) := by
  cases a with
  | run bind =>
      rw [step]
      unfold goOn
      split
      · next family rx left hphase =>
          split
          · next hnone =>
              refine .idle fun _ _ => ⟨family, rx, left, hphase, ?_⟩
              rw [List.getElem?_eq_none_iff] at hnone
              omega
          · next iface hiface =>
              split
              · next task htask => exact .spawn hphase hiface htask
              · next e htask => exact .fail hphase hiface htask
      · next hphase =>
          exact .advance (by simp) (fun _ family rx left _ => hphase family rx left) (by simp)
  | shutdown => exact .advance (by simp) (by simp) (by simp)
  | select i incoming =>
      rw [step]
      unfold select
      dsimp only
      split
      · next rx rx' a hloop hnext harrival =>
          obtain ⟨task, htask, harrival⟩ := Option.bind_eq_some_iff.mp harrival
          exact .take hloop hnext htask harrival
      · exact .advance (by simp) (by simp) (by simp)
  | act i =>
      rw [step]
      unfold act
      split
      · next rx hloop =>
          split
          · next htodo =>
              refine .advance (by simp) (by simp) fun j hj => ?_
              obtain rfl := AgentAction.handled.inj hj
              exact htodo
          · next e rest htodo => exact .act hloop htodo
      · exact .idle (by simp)

/-- What every step keeps, every run keeps. -/
theorem AgentLife.invariant {I : AgentLife → Prop}
    (hstep : ∀ s a s', s.Step config v4 v6 a s' → I s → I s') (hs : I s)
    (actions : List LifeAction) : I (run (step config v4 v6) s actions) :=
  run_induction (P := fun _ s => I s) hs (fun _ a ih => hstep _ a _ (step_inv _ a) ih) actions

/-- `run`, the channel and the loops go on as in `AgentState`, or not at all. -/
theorem AgentLife.Step.agent_cases {a : LifeAction} (h : s.Step config v4 v6 a s') :
    s'.agent = s.agent ∧ s'.trace = s.trace
      ∨ ∃ next, s'.agent = s.agent.step config.enabled.length next ∧ s'.trace = s.trace ++ [next] := by
  cases h with
  | idle hrun => exact .inl ⟨rfl, rfl⟩
  | act hloop htodo => exact .inl ⟨rfl, rfl⟩
  | advance hrun hphase hdone => exact .inr ⟨_, rfl, rfl⟩
  | spawn hphase hiface htask => exact .inr ⟨_, rfl, rfl⟩
  | fail hphase hiface htask => exact .inr ⟨_, rfl, rfl⟩
  | take hloop hnext htask harrival => exact .inr ⟨_, rfl, rfl⟩

/-- **What is said about `AgentState` is said about an agent with its tasks.** -/
theorem AgentLife.agent_eq (actions : List LifeAction) :
    (run (step config v4 v6) {} actions).agent
      = run (AgentState.step config.enabled.length) {}
        (run (step config v4 v6) {} actions).trace := by
  refine invariant (I := fun s => s.agent = run (AgentState.step config.enabled.length) {} s.trace)
    (fun s a s' hstep hs => ?_) rfl actions
  rcases hstep.agent_cases with ⟨hagent, htrace⟩ | ⟨next, hagent, htrace⟩
  · rw [hagent, htrace, hs]
  · rw [hagent, htrace, run_concat, ← hs]

/-! ### A sample life -/

/-- `run` goes on where a task can be spawned. -/
theorem AgentLife.goOn_of_spawn {family : Family} {rx : Watch.Receiver} {left : Nat}
    {iface : InterfaceConfig} {bind : Binding} {task : AgentTask}
    (hphase : s.agent.phase = .spawning family rx (left + 1))
    (hiface : config.enabled[config.enabled.length - (left + 1)]? = some iface)
    (htask : AgentTask.spawn config bind iface family = .ok task) :
    s.goOn config bind = (s.advance config (.run true)).addTask task := by
  unfold goOn
  rw [hphase]
  dsimp only
  rw [hiface]
  dsimp only
  rw [htask]

theorem AgentLife.trace_select {i : Nat} {incoming : Incoming} :
    (s.select config v4 v6 i incoming).trace = s.trace ++ [.select i incoming.ready] := by
  unfold select
  dsimp only
  split <;> rfl

theorem AgentLife.agent_select {i : Nat} {incoming : Incoming} :
    (s.select config v4 v6 i incoming).agent
      = s.agent.step config.enabled.length (.select i incoming.ready) := by
  unfold select
  dsimp only
  split <;> rfl

/-- The default configuration on one interface. -/
def sampleLifeConfig : RelayConfig := sampleConfig none none

/-- The tasks of the interface. -/
def sampleTask4 : AgentTask := .v4 (.mkFor sampleLifeConfig sampleInterface sampleBindAddr)

def sampleTask6 : AgentTask :=
  .v6 (.mkFor sampleLifeConfig sampleInterface (.v4 ⟨10, 0, 0, 1⟩ 547))

theorem sampleTask4_spawn :
    AgentTask.spawn sampleLifeConfig (fun _ => .ok ()) sampleInterface .v4 = .ok sampleTask4 := by
  rw [AgentTask.spawn, sampleInterface_task]
  rfl

theorem sampleTask6_spawn :
    AgentTask.spawn sampleLifeConfig (fun _ => .ok ()) sampleInterface .v6 = .ok sampleTask6 := by
  have hparse : SocketAddr.parse (beforeColon sampleInterface.ipAddr.toList ++ [':', '5', '4', '7'])
      = some (.v4 ⟨10, 0, 0, 1⟩ 547) := by decide +kernel
  rw [AgentTask.spawn, V6Task.spawn, hparse]
  rfl

/-- Where the agent is after that many steps of `run`, with these tasks. -/
def sampleStart (steps : Nat) (tasks : List AgentTask) : AgentLife where
  agent := run (AgentState.step 1) {} (List.replicate steps (.run true))
  trace := List.replicate steps (.run true)
  tasks := tasks

theorem sampleStart_eq (v4 : V4.Codec) (v6 : V6.Codec) :
    run (AgentLife.step sampleLifeConfig v4 v6) {} (List.replicate 6 (.run fun _ => .ok ()))
      = sampleStart 6 [sampleTask4, sampleTask6] := by
  let goOn : AgentLife → AgentLife := AgentLife.goOn sampleLifeConfig fun _ => .ok ()
  have hv4 : goOn (sampleStart 1 []) = sampleStart 2 [sampleTask4] :=
    AgentLife.goOn_of_spawn rfl rfl sampleTask4_spawn
  have hv6 : goOn (sampleStart 4 [sampleTask4]) = sampleStart 5 [sampleTask4, sampleTask6] :=
    AgentLife.goOn_of_spawn rfl rfl sampleTask6_spawn
  calc run (AgentLife.step sampleLifeConfig v4 v6) {} (List.replicate 6 (.run fun _ => .ok ()))
      = goOn (goOn (goOn (goOn (goOn (sampleStart 1 []))))) := rfl
    _ = goOn (goOn (sampleStart 4 [sampleTask4])) := by rw [hv4]; rfl
    _ = goOn (sampleStart 5 [sampleTask4, sampleTask6]) := by rw [hv6]
    _ = sampleStart 6 [sampleTask4, sampleTask6] := rfl

/-- It is started, gets a datagram and is shut down. -/
def sampleLife : List LifeAction :=
  List.replicate 6 (.run fun _ => .ok ())
    ++ [.select 0 (.datagram none [1, 2, 3] V4.sampleClient), .shutdown]

theorem sampleLife_agent (v4 : V4.Codec) (v6 : V6.Codec) :
    (run (AgentLife.step sampleLifeConfig v4 v6) {} sampleLife).agent
        = run (AgentState.step 1) {} (sampleStartup ++ [.select 0 true, .shutdown])
      ∧ (run (AgentLife.step sampleLifeConfig v4 v6) {} sampleLife).trace
        = sampleStartup ++ [.select 0 true, .shutdown] := by
  rw [sampleLife, run_append, sampleStart_eq]
  let taken : AgentLife := (sampleStart 6 [sampleTask4, sampleTask6]).select sampleLifeConfig v4 v6
    0 (.datagram none [1, 2, 3] V4.sampleClient)
  show (taken.advance sampleLifeConfig .shutdown).agent = _
    ∧ (taken.advance sampleLifeConfig .shutdown).trace = _
  rw [AgentLife.advance]
  dsimp only
  rw [AgentLife.agent_select, AgentLife.trace_select]
  exact ⟨rfl, rfl⟩

end

end DhcpRelay
