import DhcpRelay.Library.Runs
import DhcpRelay.Library.Watch

/-!
# DhcpRelay.AgentShutdown

**Starting and stopping.** `run` subscribes to the shutdown channel twice, once for the
DHCPv4 and once for the DHCPv6 tasks, and each task gets a clone of the receiver of its
family. A receiver does not see what was sent before it was subscribed, so a shutdown gets
to the tasks of both families only if it comes behind the second subscription. One that
comes earlier is lost on the DHCPv6 tasks, and before the first on all.

Three parties take their steps in any order: `run`, the caller of `shutdown`, and the
receive loops.
-/

namespace DhcpRelay

open DhcpRelay.Library

/-! ### Receive loops -/

/-- Where a receive loop is. -/
inductive LoopPhase
  | selecting
  | handling
  | left

/-- The receive loop of a task, with its clone of the shutdown receiver. -/
structure ReceiveLoop where
  rx : Watch.Receiver
  phase : LoopPhase := .selecting

namespace ReceiveLoop

/-- The select of a loop, while a packet is or is not there. It is biased: the channel is
looked at first. -/
def select (channel : Watch Bool) (packet : Bool) (loop : ReceiveLoop) : ReceiveLoop :=
  match channel.changed loop.rx with
  | some rx => { rx := rx, phase := if channel.value then .left else .selecting }
  | none => { loop with phase := if packet then .handling else .selecting }

/-- What a loop does next: it is at its select, or done with a packet and back there. -/
inductive Next (channel : Watch Bool) : ReceiveLoop → ReceiveLoop → Prop
  | select (rx : Watch.Receiver) (packet : Bool) :
      Next channel ⟨rx, .selecting⟩ (select channel packet ⟨rx, .selecting⟩)
  | handled (rx : Watch.Receiver) : Next channel ⟨rx, .handling⟩ ⟨rx, .selecting⟩

/-- The loop has been left, or will be at its next select, whether there is a packet or not. -/
def Leaves (channel : Watch Bool) (loop : ReceiveLoop) : Prop :=
  loop.phase = .left ∨ ∀ packet, (loop.select channel packet).phase = .left

end ReceiveLoop

/-! ### Start-up -/

/-- The protocols a relay has tasks for, in the order in which they are spawned. -/
inductive Family
  | v4
  | v6

/-- How far `run` has got: before the subscription for a family; with the receiver of a
family, and interfaces left to spawn a task for; awaiting the tasks; failed. -/
inductive RunPhase
  | before (family : Family)
  | spawning (family : Family) (rx : Watch.Receiver) (left : Nat)
  | awaiting
  | failed

/-- What follows when all tasks of a family have been spawned. -/
def RunPhase.after : Family → RunPhase
  | .v4 => .before .v6
  | .v6 => .awaiting

/-- An agent: its shutdown channel, whose first receiver is dropped by `new`, how far `run`
has got, and the loops of the tasks it has spawned. -/
structure AgentState where
  channel : Watch Bool := (Watch.channel false).1.drop
  phase : RunPhase := .before .v4
  loops : List ReceiveLoop := []

/-- One step of one of the parties. -/
inductive AgentAction
  /-- `run` goes on. If it is to bind a socket, that succeeds or not. -/
  | run (bound : Bool)
  /-- `shutdown` is called. -/
  | shutdown
  /-- A loop is at its select. -/
  | select (i : Nat) (packet : Bool)
  /-- A loop is done with a packet. -/
  | handled (i : Nat)

namespace AgentState

/-- `run` goes on, in an agent with that many enabled interfaces. -/
def advance (interfaces : Nat) (bound : Bool) (s : AgentState) : AgentState :=
  match s.phase with
  | .before family =>
    let (channel, rx) := s.channel.subscribe
    { s with channel := channel, phase := .spawning family rx interfaces }
  | .spawning family _ 0 =>
    -- the end of `spawn_v4_tasks` or `spawn_v6_tasks`, and of its receiver
    { s with channel := s.channel.drop, phase := .after family }
  | .spawning family rx (left + 1) =>
    if bound then
      let (channel, sr) := s.channel.clone rx
      { channel := channel
        phase := .spawning family rx left
        loops := s.loops ++ [{ rx := sr }] }
    else { s with channel := s.channel.drop, phase := .failed }
  | .awaiting | .failed => s

/-- Signal the relay agent to shut down gracefully. -/
def shutdown (s : AgentState) : AgentState := { s with channel := s.channel.send true }

/-- A loop that is at its select runs it, and drops its receiver when it is left. -/
def select (i : Nat) (packet : Bool) (s : AgentState) : AgentState :=
  match s.loops[i]? with
  | some ⟨rx, .selecting⟩ =>
    let loop := ReceiveLoop.select s.channel packet ⟨rx, .selecting⟩
    { s with
      channel := match loop.phase with
        | .left => s.channel.drop
        | _ => s.channel
      loops := s.loops.set i loop }
  | _ => s

/-- A loop that is handling a packet is back at its select. -/
def handled (i : Nat) (s : AgentState) : AgentState :=
  match s.loops[i]? with
  | some ⟨rx, .handling⟩ => { s with loops := s.loops.set i ⟨rx, .selecting⟩ }
  | _ => s

def step (interfaces : Nat) (s : AgentState) : AgentAction → AgentState
  | .run bound => s.advance interfaces bound
  | .shutdown => s.shutdown
  | .select i packet => s.select i packet
  | .handled i => s.handled i

/-- No task goes on for ever. -/
def ShutDown (s : AgentState) : Prop := ∀ loop ∈ s.loops, loop.Leaves s.channel

end AgentState

/-! ### Steps -/

/-- The receiver that `run` has at hand. -/
def RunPhase.held : RunPhase → Option Watch.Receiver
  | .spawning _ rx _ => some rx
  | _ => none

@[simp] theorem RunPhase.held_spawning {family : Family} {rx : Watch.Receiver} {left : Nat} :
    (RunPhase.spawning family rx left).held = some rx := rfl

@[simp] theorem RunPhase.held_failed : RunPhase.failed.held = none := rfl

@[simp] theorem RunPhase.held_after {family : Family} : (RunPhase.after family).held = none := by
  cases family <;> rfl

/-- No subscription is still to come. -/
def RunPhase.Subscribed : RunPhase → Prop
  | .before _ | .spawning .v4 _ _ => False
  | .spawning .v6 _ _ | .awaiting | .failed => True

section

variable {interfaces : Nat} {s : AgentState} {a : AgentAction} {loop : ReceiveLoop}
  {channel : Watch Bool} {packet : Bool}

theorem ReceiveLoop.select_of_lt (h : loop.rx.seen < channel.version) :
    loop.select channel packet
      = { rx := ⟨channel.version⟩, phase := if channel.value then .left else .selecting } := by
  rw [select, Watch.changed_of_lt h]

theorem ReceiveLoop.select_of_not_lt (h : ¬ loop.rx.seen < channel.version) :
    loop.select channel packet
      = { loop with phase := if packet then .handling else .selecting } := by
  rw [select, Watch.changed_of_not_lt h]

/-- A loop leaves if there is news for it, and that is to leave. -/
theorem ReceiveLoop.leaves_iff :
    loop.Leaves channel
      ↔ loop.phase = .left ∨ loop.rx.seen < channel.version ∧ channel.value = true := by
  refine or_congr_right ?_
  by_cases hnews : loop.rx.seen < channel.version
  · cases hvalue : channel.value <;> simp [select_of_lt hnews, hnews, hvalue]
  · constructor
    · intro h
      have hwaits := h false
      simp [select_of_not_lt hnews] at hwaits
    · exact fun h => absurd h.1 hnews

/-- Whether a loop leaves is not changed by what it does until it leaves. -/
theorem ReceiveLoop.Next.leaves_iff {loop' : ReceiveLoop} (h : Next channel loop loop') :
    loop'.Leaves channel ↔ loop.Leaves channel := by
  rw [ReceiveLoop.leaves_iff, ReceiveLoop.leaves_iff]
  cases h with
  | select rx packet =>
      by_cases hnews : rx.seen < channel.version
      · rw [select_of_lt hnews]
        cases channel.value <;> simp [hnews]
      · rw [select_of_not_lt hnews]
        cases packet <;> simp [hnews]
  | handled rx => simp

/-- **What a step other than a shutdown does.** -/
inductive AgentState.Step (interfaces : Nat) (s : AgentState) : AgentState → Prop
  /-- Nothing. -/
  | idle : Step interfaces s s
  /-- `run` subscribes for a family. -/
  | subscribe {family : Family} (hphase : s.phase = .before family) :
      Step interfaces s { s with
        channel := s.channel.subscribe.1
        phase := .spawning family ⟨s.channel.version⟩ interfaces }
  /-- It has spawned all tasks of a family. -/
  | spawned {family : Family} {rx : Watch.Receiver} (hphase : s.phase = .spawning family rx 0) :
      Step interfaces s { s with channel := s.channel.drop, phase := .after family }
  /-- It spawns a task. -/
  | spawn {family : Family} {rx : Watch.Receiver} {left : Nat}
      (hphase : s.phase = .spawning family rx (left + 1)) :
      Step interfaces s {
        channel := (s.channel.clone rx).1
        phase := .spawning family rx left
        loops := s.loops ++ [{ rx := rx }] }
  /-- It fails. -/
  | fail {family : Family} {rx : Watch.Receiver} {left : Nat}
      (hphase : s.phase = .spawning family rx (left + 1)) :
      Step interfaces s { s with channel := s.channel.drop, phase := .failed }
  /-- A loop goes on. -/
  | goOn {i : Nat} {loop next : ReceiveLoop} (hloop : s.loops[i]? = some loop)
      (hnext : ReceiveLoop.Next s.channel loop next) (hphase : next.phase ≠ .left) :
      Step interfaces s { s with loops := s.loops.set i next }
  /-- A loop is left. -/
  | leave {i : Nat} {loop next : ReceiveLoop} (hloop : s.loops[i]? = some loop)
      (hnext : ReceiveLoop.Next s.channel loop next) (hphase : next.phase = .left) :
      Step interfaces s { s with channel := s.channel.drop, loops := s.loops.set i next }

theorem AgentState.step_inv (s : AgentState) (interfaces : Nat) (ha : a ≠ .shutdown) :
    s.Step interfaces (s.step interfaces a) := by
  cases a with
  | run bound =>
      rw [step]
      unfold advance
      split
      · next family hphase => exact .subscribe hphase
      · next family rx hphase => exact .spawned hphase
      · next family rx left hphase =>
          split
          · exact .spawn hphase
          · exact .fail hphase
      · exact .idle
      · exact .idle
  | shutdown => exact absurd rfl ha
  | select i packet =>
      rw [step]
      unfold select
      split
      · next rx hloop =>
          dsimp only
          split
          · next hphase => exact .leave hloop (.select rx packet) hphase
          · next hphase => exact .goOn hloop (.select rx packet) hphase
      · exact .idle
  | handled i =>
      rw [step]
      unfold handled
      split
      · next rx hloop => exact .goOn hloop (.handled rx) (by simp)
      · exact .idle

/-- **Invariants between shutdowns.** -/
theorem AgentState.invariant {I : AgentState → Prop} {actions : List AgentAction}
    (hstep : ∀ s s' : AgentState, s.Step interfaces s' → I s → I s')
    (hactions : .shutdown ∉ actions) (hs : I s) :
    I (Library.run (step interfaces) s actions) := by
  have hnone : Along (step interfaces) (fun _ a => a ≠ .shutdown) s actions := by
    intro before a hprefix ha
    have hmem : a ∈ actions := hprefix.subset (List.mem_append_right before List.mem_cons_self)
    exact hactions (ha ▸ hmem)
  exact hnone.invariant (fun s a ha hs => hstep s _ (s.step_inv interfaces ha) hs) hs

/-! ### Before the shutdown -/

/-- Nothing has been sent that a receiver has not seen, and all receivers are counted. -/
structure AgentState.Fresh (s : AgentState) : Prop where
  held : ∀ rx ∈ s.phase.held, rx.seen = s.channel.version
  loops : ∀ loop ∈ s.loops, loop.phase ≠ .left ∧ loop.rx.seen = s.channel.version
  receivers : s.channel.receivers = s.loops.length + s.phase.held.toList.length

/-- What a loop does while there is nothing new. -/
theorem AgentState.Fresh.next {next : ReceiveLoop} (h : s.Fresh) (hmem : loop ∈ s.loops)
    (hnext : ReceiveLoop.Next s.channel loop next) :
    next.phase ≠ .left ∧ next.rx.seen = s.channel.version := by
  have hseen := (h.loops loop hmem).2
  cases hnext with
  | select rx packet =>
      have hnone : ¬ rx.seen < s.channel.version := Nat.not_lt_of_le (Nat.le_of_eq hseen.symm)
      rw [ReceiveLoop.select_of_not_lt hnone]
      refine ⟨?_, hseen⟩
      cases packet <;> simp
  | handled rx => exact ⟨by simp, hseen⟩

theorem AgentState.Fresh.step {s' : AgentState} (h : s.Fresh) (hstep : s.Step interfaces s') :
    s'.Fresh := by
  have hreceivers := h.receivers
  have hloops := h.loops
  cases hstep with
  | idle => exact h
  | subscribe hphase =>
      refine ⟨fun rx hrx => ?_, hloops, ?_⟩
      · obtain rfl := Option.some.inj hrx
        rfl
      · rw [hphase] at hreceivers
        exact congrArg (· + 1) hreceivers
  | @spawned family rx hphase =>
      rw [hphase] at hreceivers
      refine ⟨fun rx hrx => ?_, hloops, ?_⟩
      · simp at hrx
      · simp [hreceivers, Watch.drop]
  | @spawn family rx left hphase =>
      have hrx : rx.seen = s.channel.version := h.held rx (by rw [hphase]; rfl)
      rw [hphase] at hreceivers
      refine ⟨fun rx' hrx' => ?_, fun loop hloop => ?_, ?_⟩
      · obtain rfl := Option.some.inj hrx'
        exact hrx
      · rcases List.mem_append.mp hloop with hold | hnew
        · exact hloops loop hold
        · obtain rfl := List.mem_singleton.mp hnew
          exact ⟨by simp, hrx⟩
      · simp [hreceivers, Watch.clone]
  | fail hphase =>
      rw [hphase] at hreceivers
      refine ⟨fun rx hrx => ?_, hloops, ?_⟩
      · simp at hrx
      · simp [hreceivers, Watch.drop]
  | goOn hloop hnext hphase =>
      have hnew := h.next (List.mem_of_getElem? hloop) hnext
      refine ⟨h.held, fun loop' hloop' => ?_, by simpa using hreceivers⟩
      rcases List.mem_or_eq_of_mem_set hloop' with hold | rfl
      · exact hloops loop' hold
      · exact hnew
  | leave hloop hnext hphase => exact absurd hphase (h.next (List.mem_of_getElem? hloop) hnext).1

/-- An agent that has not been shut down. -/
theorem AgentState.fresh_run {actions : List AgentAction} (h : .shutdown ∉ actions) :
    (Library.run (AgentState.step interfaces) {} actions).Fresh := by
  refine AgentState.invariant (fun _ _ hstep hs => hs.step hstep) h ⟨?_, ?_, rfl⟩
  · intro rx hrx
    simp [RunPhase.held] at hrx
  · intro loop hloop
    simp at hloop

/-! ### Behind the shutdown -/

/-- What there is in receivers has news to leave. -/
structure AgentState.Heeded (s : AgentState) : Prop where
  subscribed : s.phase.Subscribed
  held : ∀ rx ∈ s.phase.held, rx.seen < s.channel.version ∧ s.channel.value = true
  loops : s.ShutDown

/-- A shutdown behind the last subscription is heard by every receiver; or there is none, and
there never will be. -/
theorem AgentState.Fresh.heeded_shutdown (h : s.Fresh) (hsubscribed : s.phase.Subscribed) :
    s.shutdown.Heeded := by
  by_cases hunheard : s.channel.receivers = 0
  · have hreceivers := h.receivers
    have hloops : s.loops = [] := by
      rw [← List.length_eq_zero_iff]
      omega
    have hheld : s.phase.held.toList = [] := by
      rw [← List.length_eq_zero_iff]
      omega
    refine ⟨hsubscribed, fun rx hrx => ?_, fun loop hloop => ?_⟩
    · have hmem : rx ∈ s.phase.held.toList := Option.mem_toList.mpr hrx
      simp [hheld] at hmem
    · have hmem : loop ∈ s.loops := hloop
      simp [hloops] at hmem
  · have hsent : s.shutdown.channel
        = { s.channel with value := true, version := s.channel.version + 1 } :=
      Watch.send_of_heard hunheard
    refine ⟨hsubscribed, fun rx hrx => ?_, fun loop hloop => ?_⟩
    · rw [hsent, h.held rx hrx]
      exact ⟨Nat.lt_succ_self _, rfl⟩
    · refine ReceiveLoop.leaves_iff.mpr (.inr ?_)
      rw [hsent, (h.loops loop hloop).2]
      exact ⟨Nat.lt_succ_self _, rfl⟩

theorem AgentState.Heeded.step {s' : AgentState} (h : s.Heeded) (hstep : s.Step interfaces s') :
    s'.Heeded := by
  have hsubscribed := h.subscribed
  cases hstep with
  | idle => exact h
  | subscribe hphase => simp [hphase, RunPhase.Subscribed] at hsubscribed
  | @spawned family rx hphase =>
      cases family with
      | v4 => simp [hphase, RunPhase.Subscribed] at hsubscribed
      | v6 => exact ⟨trivial, fun rx hrx => by simp at hrx, h.loops⟩
  | @spawn family rx left hphase =>
      have hrx := h.held rx (by rw [hphase]; rfl)
      cases family with
      | v4 => simp [hphase, RunPhase.Subscribed] at hsubscribed
      | v6 =>
          refine ⟨trivial, fun rx' hrx' => ?_, fun loop hloop => ?_⟩
          · obtain rfl := Option.some.inj hrx'
            exact hrx
          · rcases List.mem_append.mp hloop with hold | hnew
            · exact h.loops loop hold
            · obtain rfl := List.mem_singleton.mp hnew
              exact ReceiveLoop.leaves_iff.mpr (.inr hrx)
  | fail hphase => exact ⟨trivial, fun rx hrx => by simp at hrx, h.loops⟩
  | goOn hloop hnext hphase =>
      refine ⟨hsubscribed, h.held, fun loop' hloop' => ?_⟩
      rcases List.mem_or_eq_of_mem_set hloop' with hold | rfl
      · exact h.loops loop' hold
      · exact hnext.leaves_iff.mpr (h.loops _ (List.mem_of_getElem? hloop))
  | leave hloop hnext hphase =>
      refine ⟨hsubscribed, h.held, fun loop' hloop' => ?_⟩
      rcases List.mem_or_eq_of_mem_set hloop' with hold | rfl
      · exact h.loops loop' hold
      · exact .inl hphase

/-! ### Before the last subscription -/

/-- Without interfaces there are no tasks. -/
structure AgentState.Taskless (s : AgentState) : Prop where
  phase : ∀ family rx left, s.phase = .spawning family rx left → left = 0
  loops : s.loops = []

theorem AgentState.Taskless.step {s' : AgentState} (h : s.Taskless) (hstep : s.Step 0 s') :
    s'.Taskless := by
  have hnone : ∀ {i : Nat} {loop : ReceiveLoop}, s.loops[i]? ≠ some loop := by simp [h.loops]
  cases hstep with
  | idle => exact h
  | subscribe hphase =>
      refine ⟨fun family rx left hnext => ?_, h.loops⟩
      exact (RunPhase.spawning.inj hnext).2.2.symm
  | @spawned family rx hphase =>
      refine ⟨fun family' rx left hnext => ?_, h.loops⟩
      cases family <;> simp [RunPhase.after] at hnext
  | @spawn family rx left hphase =>
      exact absurd (h.phase family rx (left + 1) hphase) (Nat.succ_ne_zero left)
  | @fail family rx left hphase =>
      exact absurd (h.phase family rx (left + 1) hphase) (Nat.succ_ne_zero left)
  | goOn hloop hnext hphase => exact absurd hloop hnone
  | leave hloop hnext hphase => exact absurd hloop hnone

theorem AgentState.taskless_run (actions : List AgentAction) :
    (Library.run (AgentState.step 0) {} actions).Taskless := by
  refine run_induction (P := fun _ (s : AgentState) => s.Taskless) ⟨?_, rfl⟩ ?_ actions
  · intro family rx left hphase
    simp at hphase
  · intro actions a ih
    by_cases ha : a = .shutdown
    · rw [ha]
      exact ⟨ih.phase, ih.loops⟩
    · exact ih.step (AgentState.step_inv _ 0 ha)

/-- `run` gets through the rest of `spawn_v4_tasks` if all sockets can be bound. -/
theorem AgentState.spawns_v4 {rx : Watch.Receiver} {left : Nat}
    (hphase : s.phase = .spawning .v4 rx left) :
    ∃ actions, .shutdown ∉ actions
      ∧ (Library.run (AgentState.step interfaces) s actions).phase = .before .v6 := by
  induction left generalizing s with
  | zero =>
      refine ⟨[.run true], by simp, ?_⟩
      show (s.advance interfaces true).phase = .before .v6
      rw [advance, hphase]
      rfl
  | succ left ih =>
      have hnext : (s.advance interfaces true).phase = .spawning .v4 rx left := by
        rw [advance, hphase]
        rfl
      obtain ⟨actions, hnone, hrun⟩ := ih hnext
      exact ⟨.run true :: actions, by simpa using hnone, hrun⟩

/-- The second subscription is still to come. -/
theorem AgentState.reaches_v6 (h : ¬ s.phase.Subscribed) :
    ∃ actions, .shutdown ∉ actions
      ∧ (Library.run (AgentState.step interfaces) s actions).phase = .before .v6 := by
  cases hphase : s.phase with
  | before family =>
      cases family with
      | v4 =>
          have hnext : (s.advance interfaces true).phase
              = .spawning .v4 ⟨s.channel.version⟩ interfaces := by
            rw [advance, hphase]
            rfl
          obtain ⟨actions, hnone, hrun⟩ := spawns_v4 hnext
          exact ⟨.run true :: actions, by simpa using hnone, hrun⟩
      | v6 => exact ⟨[], by simp, hphase⟩
  | spawning family rx left =>
      cases family with
      | v4 => exact spawns_v4 hphase
      | v6 => simp [hphase, RunPhase.Subscribed] at h
  | awaiting => simp [hphase, RunPhase.Subscribed] at h
  | failed => simp [hphase, RunPhase.Subscribed] at h

/-- **A task that is spawned behind a subscription does not see what was sent before it.** -/
theorem AgentState.deaf_of_before {family : Family} (hphase : s.phase = .before family) :
    ¬ (Library.run (AgentState.step (interfaces + 1)) s [.run true, .run true]).ShutDown := by
  have hsubscribed : s.step (interfaces + 1) (.run true)
      = { s with
        channel := s.channel.subscribe.1
        phase := .spawning family ⟨s.channel.version⟩ (interfaces + 1) } := by
    rw [step, advance, hphase]
    rfl
  let loop : ReceiveLoop := { rx := ⟨s.channel.version⟩ }
  have hspawned : Library.run (AgentState.step (interfaces + 1)) s [.run true, .run true]
      = { channel := (s.channel.subscribe.1.clone loop.rx).1
          phase := .spawning family loop.rx interfaces
          loops := s.loops ++ [loop] } := by
    show (s.step (interfaces + 1) (.run true)).step (interfaces + 1) (.run true) = _
    rw [hsubscribed]
    rfl
  rw [hspawned]
  intro h
  have hleaves : loop.Leaves (s.channel.subscribe.1.clone loop.rx).1 :=
    h loop (List.mem_append_right _ List.mem_cons_self)
  simp [ReceiveLoop.leaves_iff, loop] at hleaves

/-- **A shutdown is heeded exactly if no subscription is still to come**, or there is nobody
to heed it. For any number of interfaces, and wherever the other parties are when it is
called: then, and only then, is every task that there is or will be gone with its next
select. -/
theorem AgentState.shutdown_heeded_iff {before : List AgentAction}
    (hbefore : .shutdown ∉ before) :
    (∀ after, .shutdown ∉ after →
        (Library.run (AgentState.step interfaces) {} (before ++ .shutdown :: after)).ShutDown)
      ↔ interfaces = 0
        ∨ (Library.run (AgentState.step interfaces) {} before).phase.Subscribed := by
  let s : AgentState := Library.run (AgentState.step interfaces) {} before
  have hrun : ∀ after, Library.run (AgentState.step interfaces) {} (before ++ .shutdown :: after)
      = Library.run (AgentState.step interfaces) s.shutdown after := fun after => run_append _ _ _ _
  constructor
  · intro h
    cases interfaces with
    | zero => exact .inl rfl
    | succ interfaces =>
        refine .inr ?_
        by_contra hsubscribed
        have hpending : ¬ s.shutdown.phase.Subscribed := hsubscribed
        obtain ⟨actions, hnone, hphase⟩ := AgentState.reaches_v6 hpending
        have hshut := h (actions ++ [.run true, .run true]) (by simpa using hnone)
        rw [hrun, run_append] at hshut
        exact AgentState.deaf_of_before hphase hshut
  · intro h after hafter
    rcases h with rfl | hsubscribed
    · intro loop hloop
      rw [(AgentState.taskless_run _).loops] at hloop
      simp at hloop
    · rw [hrun]
      have hheeded : s.shutdown.Heeded := (AgentState.fresh_run hbefore).heeded_shutdown hsubscribed
      exact (AgentState.invariant (fun _ _ hstep hs => hs.step hstep) hafter hheeded).loops

/-! ### For ever -/

/-- **Who does not hear the shutdown goes on for ever.** -/
theorem AgentState.not_shutDown_step {s' : AgentState} (h : ¬ s.ShutDown)
    (hstep : s.Step interfaces s') : ¬ s'.ShutDown := by
  -- of the loop that goes on, what it was tells what it is
  have hset : ∀ {i : Nat} {loop next : ReceiveLoop}, s.loops[i]? = some loop →
      ReceiveLoop.Next s.channel loop next →
        (∀ loop' ∈ s.loops.set i next, loop'.Leaves s.channel) → s.ShutDown := by
    intro i loop next hloop hnext hleaves loop' hloop'
    obtain ⟨j, hj⟩ := List.mem_iff_getElem?.mp hloop'
    obtain ⟨hlt, -⟩ := List.getElem?_eq_some_iff.mp hj
    by_cases hij : i = j
    · obtain rfl := hij
      obtain rfl : loop = loop' := Option.some.inj (hloop.symm.trans hj)
      exact hnext.leaves_iff.mp (hleaves next (List.mem_of_getElem? (List.getElem?_set_self hlt)))
    · exact hleaves loop' (List.mem_of_getElem? ((List.getElem?_set_ne hij).trans hj))
  intro hshut
  cases hstep with
  | idle => exact h hshut
  | subscribe hphase => exact h hshut
  | spawned hphase => exact h hshut
  | spawn hphase => exact h fun loop hloop => hshut loop (List.mem_append_left _ hloop)
  | fail hphase => exact h hshut
  | goOn hloop hnext hphase => exact h (hset hloop hnext hshut)
  | leave hloop hnext hphase => exact h (hset hloop hnext hshut)

end

/-- The start of an agent with one interface. -/
def sampleStartup : List AgentAction :=
  [.run true, .run true, .run true, .run true, .run true, .run true]

theorem sampleStartup_heeded :
    (run (AgentState.step 1) {} (sampleStartup ++ .shutdown :: [.select 0 true])).ShutDown := by
  have hnone : .shutdown ∉ sampleStartup := by simp [sampleStartup]
  have hsubscribed : (run (AgentState.step 1) {} sampleStartup).phase.Subscribed := trivial
  exact (AgentState.shutdown_heeded_iff hnone).mpr (.inr hsubscribed) [.select 0 true] (by simp)

/-- A shutdown before the start is lost for ever. -/
theorem sampleShutdown_lost :
    ¬ (run (AgentState.step 1) {} [.shutdown, .run true, .run true]).ShutDown
      ∧ ∀ after, .shutdown ∉ after →
        ¬ (run (AgentState.step 1) {} ([.shutdown, .run true, .run true] ++ after)).ShutDown := by
  have hdeaf : ¬ (run (AgentState.step 1) {} [.shutdown, .run true, .run true]).ShutDown :=
    AgentState.deaf_of_before (s := ({} : AgentState).shutdown) rfl
  refine ⟨hdeaf, fun after hafter => ?_⟩
  rw [run_append]
  exact AgentState.invariant (I := fun s : AgentState => ¬ s.ShutDown)
    (fun _ _ hstep hs => AgentState.not_shutDown_step hs hstep) hafter hdeaf

end DhcpRelay
