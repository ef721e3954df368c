import DhcpRelay.AgentShutdown

/-!
# DhcpRelay.AgentStop

**Which tasks stop**, in runs where `shutdown` may be called any number of times, anywhere,
and where `run` may fail to bind a socket and leave behind the tasks it has spawned.

All tasks of a family have what their subscription has seen. A shutdown before it does not
reach them, however often it is repeated; the first one behind it does, and seals what becomes
of them: a task leaves exactly if there is a shutdown since its family's subscription. So
`run`, which awaits them all, returns only if there is one since the second.
-/

namespace DhcpRelay

open DhcpRelay.Library

/-! ### Tasks by number -/

/-- How many tasks there are before those of a family. -/
def Family.first (interfaces : Nat) : Family → Nat
  | .v4 => 0
  | .v6 => interfaces

/-- The family of a task, by the number of tasks that were spawned before it. -/
def Family.ofTask (interfaces i : Nat) : Family := if i < interfaces then .v4 else .v6

theorem Family.ofTask_eq {interfaces i : Nat} {family : Family}
    (hfirst : family.first interfaces ≤ i) (hlast : i < family.first interfaces + interfaces) :
    Family.ofTask interfaces i = family := by
  cases family with
  | v4 => exact if_pos (by simpa [first] using hlast)
  | v6 => exact if_neg (Nat.not_lt_of_le hfirst)

/-- With `n` tasks, `run` can have got that far. -/
def RunPhase.Counts (interfaces n : Nat) : RunPhase → Prop
  | .before family => n = family.first interfaces
  | .spawning family _ left =>
    family.first interfaces ≤ n ∧ n + left = family.first interfaces + interfaces
  | .awaiting => n = interfaces + interfaces
  | .failed => n ≤ interfaces + interfaces

/-- The task that is spawned next is one of the family's. -/
theorem RunPhase.Counts.ofTask {interfaces n left : Nat} {family : Family} {rx : Watch.Receiver}
    (h : (RunPhase.spawning family rx (left + 1)).Counts interfaces n) :
    Family.ofTask interfaces n = family := by
  obtain ⟨hfirst, hsum⟩ := h
  exact Family.ofTask_eq hfirst (by omega)

/-- There are no more than two tasks for an interface. -/
theorem RunPhase.Counts.le {interfaces n : Nat} {phase : RunPhase} (h : phase.Counts interfaces n) :
    n ≤ interfaces + interfaces := by
  have hfirst : ∀ family, Family.first interfaces family ≤ interfaces := by
    intro family
    cases family with
    | v4 => exact Nat.zero_le _
    | v6 => exact Nat.le_refl _
  cases phase with
  | before family => exact Nat.le_trans (Nat.le_of_eq h) (Nat.le_add_right_of_le (hfirst family))
  | spawning family rx left =>
      have hsum : n + left = family.first interfaces + interfaces := h.2
      have hle := hfirst family
      omega
  | awaiting => exact Nat.le_of_eq h
  | failed => exact h

/-- The receiver of the loop is not dropped. -/
def ReceiveLoop.listens (loop : ReceiveLoop) : Bool :=
  match loop.phase with
  | .selecting | .handling => true
  | .left => false

/-- There is news for the receiver, and that is to leave. -/
def Told (channel : Watch Bool) (rx : Watch.Receiver) : Prop :=
  rx.seen < channel.version ∧ channel.value = true

section

variable {interfaces : Nat} {s s' : AgentState} {a : AgentAction} {actions : List AgentAction}
  {family : Family} {channel : Watch Bool} {loop next : ReceiveLoop}

theorem ReceiveLoop.leaves_of_not_listens (h : loop.listens = false) : loop.Leaves channel := by
  refine .inl ?_
  cases hphase : loop.phase with
  | selecting => simp [listens, hphase] at h
  | handling => simp [listens, hphase] at h
  | left => rfl

theorem ReceiveLoop.listens_of_ne_left (h : loop.phase ≠ .left) : loop.listens = true := by
  cases hphase : loop.phase with
  | selecting => simp [listens, hphase]
  | handling => simp [listens, hphase]
  | left => exact absurd hphase h

/-- A loop that goes on has listened. -/
theorem ReceiveLoop.Next.listens (h : Next channel loop next) : loop.listens = true := by
  cases h <;> rfl

/-- What a loop has seen is not ahead of the channel. -/
theorem ReceiveLoop.Next.seen_le (h : Next channel loop next)
    (hseen : loop.rx.seen ≤ channel.version) : next.rx.seen ≤ channel.version := by
  cases h with
  | select rx packet =>
      by_cases hnews : rx.seen < channel.version
      · have hnow : (ReceiveLoop.select channel packet ⟨rx, .selecting⟩).rx.seen
            = channel.version := by
          rw [ReceiveLoop.select_of_lt hnews]
        exact Nat.le_of_eq hnow
      · rw [ReceiveLoop.select_of_not_lt hnews]
        exact hseen
  | handled rx => exact hseen

/-- Where a loop comes from: it was there, and has gone on or not, or is that of a new task. -/
theorem AgentState.Step.loop_cases {i : Nat} {loop' : ReceiveLoop} (h : s.Step interfaces s')
    (hloop' : s'.loops[i]? = some loop') :
    (∃ loop, s.loops[i]? = some loop
        ∧ (loop' = loop ∨ ReceiveLoop.Next s.channel loop loop')
        ∧ (loop'.Leaves s'.channel ↔ loop.Leaves s.channel))
      ∨ ∃ family rx left, s.phase = .spawning family rx (left + 1) ∧ i = s.loops.length
        ∧ (loop'.Leaves s'.channel ↔ Told s.channel rx) := by
  have hsame : s.loops[i]? = some loop' → ∃ loop, s.loops[i]? = some loop
      ∧ (loop' = loop ∨ ReceiveLoop.Next s.channel loop loop')
      ∧ (loop'.Leaves s.channel ↔ loop.Leaves s.channel) :=
    fun hloop => ⟨loop', hloop, .inl rfl, Iff.rfl⟩
  have hset : ∀ {j : Nat} {loop next : ReceiveLoop}, s.loops[j]? = some loop →
      ReceiveLoop.Next s.channel loop next → (s.loops.set j next)[i]? = some loop' →
        ∃ loop, s.loops[i]? = some loop
          ∧ (loop' = loop ∨ ReceiveLoop.Next s.channel loop loop')
          ∧ (loop'.Leaves s.channel ↔ loop.Leaves s.channel) := by
    intro j loop next hloop hnext hmem
    by_cases hij : j = i
    · obtain rfl := hij
      obtain ⟨hlt, -⟩ := List.getElem?_eq_some_iff.mp hloop
      rw [List.getElem?_set_self hlt] at hmem
      obtain rfl := Option.some.inj hmem
      exact ⟨loop, hloop, .inr hnext, hnext.leaves_iff⟩
    · rw [List.getElem?_set_ne hij] at hmem
      exact hsame hmem
  cases h with
  | idle => exact .inl (hsame hloop')
  | subscribe hphase => exact .inl (hsame hloop')
  | spawned hphase => exact .inl (hsame hloop')
  | @spawn family rx left hphase =>
      rcases getElem?_concat_cases hloop' with hold | ⟨rfl, rfl⟩
      · exact .inl (hsame hold)
      · refine .inr ⟨family, rx, left, hphase, rfl, ?_⟩
        rw [ReceiveLoop.leaves_iff]
        exact or_iff_right (by simp)
  | fail hphase => exact .inl (hsame hloop')
  | goOn hloop hnext hphase => exact .inl (hset hloop hnext hloop')
  | leave hloop hnext hphase => exact .inl (hset hloop hnext hloop')

/-! ### What holds of every agent -/

/-- All receivers are counted, none is ahead of the channel, and the tasks are as many as `run`
has spawned. -/
structure AgentState.Sound (interfaces : Nat) (s : AgentState) : Prop where
  receivers :
    s.channel.receivers = s.loops.countP ReceiveLoop.listens + s.phase.held.toList.length
  held : ∀ rx ∈ s.phase.held, rx.seen ≤ s.channel.version
  loops : ∀ loop ∈ s.loops, loop.rx.seen ≤ s.channel.version
  counts : s.phase.Counts interfaces s.loops.length

theorem AgentState.sound_init : AgentState.Sound interfaces {} := by
  refine ⟨rfl, fun rx hrx => ?_, fun loop hloop => ?_, rfl⟩
  · simp [RunPhase.held] at hrx
  · simp at hloop

theorem AgentState.Sound.shutdown (h : s.Sound interfaces) : s.shutdown.Sound interfaces := by
  have hle : s.channel.version ≤ (s.channel.send true).version := Watch.version_le_send
  exact ⟨Watch.receivers_send.trans h.receivers, fun rx hrx => Nat.le_trans (h.held rx hrx) hle,
    fun loop hloop => Nat.le_trans (h.loops loop hloop) hle, h.counts⟩

/-- A receiver that is there hears of a shutdown. -/
theorem AgentState.told_shutdown {rx : Watch.Receiver} (hreceivers : s.channel.receivers ≠ 0)
    (hseen : rx.seen ≤ s.channel.version) : Told s.shutdown.channel rx := by
  have hsent : s.shutdown.channel
      = { s.channel with value := true, version := s.channel.version + 1 } :=
    Watch.send_of_heard hreceivers
  rw [hsent]
  exact ⟨Nat.lt_succ_of_le hseen, rfl⟩

/-- The number of listening loops, when one of them goes on. -/
theorem AgentState.countP_set {i : Nat} (hloop : s.loops[i]? = some loop)
    (hnext : ReceiveLoop.Next channel loop next) :
    (s.loops.set i next).countP ReceiveLoop.listens + 1
      = s.loops.countP ReceiveLoop.listens + if next.listens then 1 else 0 := by
  obtain ⟨hlt, hget⟩ := List.getElem?_eq_some_iff.mp hloop
  have hpos : 0 < s.loops.countP ReceiveLoop.listens :=
    List.countP_pos_iff.mpr ⟨loop, List.mem_of_getElem? hloop, hnext.listens⟩
  rw [List.countP_set hlt, hget, hnext.listens, if_pos rfl]
  omega

theorem AgentState.Sound.step (h : s.Sound interfaces) (hstep : s.Step interfaces s') :
    s'.Sound interfaces := by
  have hreceivers := h.receivers
  have hcounts := h.counts
  cases hstep with
  | idle => exact h
  | subscribe hphase =>
      rw [hphase] at hreceivers hcounts
      refine ⟨congrArg (· + 1) hreceivers, fun rx hrx => ?_, h.loops, ?_⟩
      · obtain rfl := Option.some.inj hrx
        exact Nat.le_refl _
      · exact ⟨Nat.le_of_eq hcounts.symm, congrArg (· + interfaces) hcounts⟩
  | @spawned family rx hphase =>
      rw [hphase] at hreceivers hcounts
      refine ⟨?_, fun rx hrx => by simp at hrx, h.loops, ?_⟩
      · simp [hreceivers, Watch.drop]
      · cases family with
        | v4 => exact hcounts.2.trans (Nat.zero_add interfaces)
        | v6 => exact hcounts.2
  | @spawn family rx left hphase =>
      have hrx : rx.seen ≤ s.channel.version := h.held rx (by rw [hphase]; rfl)
      rw [hphase] at hreceivers hcounts
      refine ⟨?_, fun rx' hrx' => ?_, fun loop hloop => ?_, ?_⟩
      · simp [hreceivers, Watch.clone, ReceiveLoop.listens]
      · obtain rfl := Option.some.inj hrx'
        exact hrx
      · rcases List.mem_append.mp hloop with hold | hnew
        · exact h.loops loop hold
        · obtain rfl := List.mem_singleton.mp hnew
          exact hrx
      · obtain ⟨hfirst, hsum⟩ := hcounts
        rw [List.length_append, List.length_singleton]
        exact ⟨Nat.le_succ_of_le hfirst, by omega⟩
  | fail hphase =>
      have hle := hcounts.le
      rw [hphase] at hreceivers
      refine ⟨?_, fun rx hrx => by simp at hrx, h.loops, hle⟩
      simp [hreceivers, Watch.drop]
  | goOn hloop hnext hphase =>
      have hset := AgentState.countP_set hloop hnext
      rw [if_pos (ReceiveLoop.listens_of_ne_left hphase)] at hset
      refine ⟨?_, h.held, fun loop' hloop' => ?_, ?_⟩
      · rw [Nat.succ.inj hset]
        exact hreceivers
      · rcases List.mem_or_eq_of_mem_set hloop' with hold | rfl
        · exact h.loops loop' hold
        · exact hnext.seen_le (h.loops _ (List.mem_of_getElem? hloop))
      · rw [List.length_set]
        exact hcounts
  | @leave i loop next hloop hnext hphase =>
      have hset := AgentState.countP_set hloop hnext
      have hleft : next.listens = false := by rw [ReceiveLoop.listens, hphase]
      rw [hleft] at hset
      refine ⟨?_, h.held, fun loop' hloop' => ?_, ?_⟩
      · show s.channel.receivers - 1
          = (s.loops.set i next).countP ReceiveLoop.listens + s.phase.held.toList.length
        simp only [Bool.false_eq_true, if_false] at hset
        omega
      · rcases List.mem_or_eq_of_mem_set hloop' with hold | rfl
        · exact h.loops loop' hold
        · exact hnext.seen_le (h.loops _ (List.mem_of_getElem? hloop))
      · rw [List.length_set]
        exact hcounts

/-! ### Since a subscription -/

/-- The phase is changed by `run` only. -/
theorem AgentState.phase_step (ha : ∀ bound, a ≠ .run bound) :
    (s.step interfaces a).phase = s.phase := by
  cases a with
  | run bound => exact absurd rfl (ha bound)
  | shutdown => rfl
  | select i packet =>
      rw [step, select]
      split <;> rfl
  | handled i =>
      rw [step, handled]
      split <;> rfl

/-- `later` is what has happened since `run` subscribed for the family. -/
def Since (interfaces : Nat) (family : Family) (actions later : List AgentAction) : Prop :=
  ∃ subscribed bound, actions = subscribed ++ .run bound :: later
    ∧ (run (AgentState.step interfaces) {} subscribed).phase = .before family

theorem Since.append {later : List AgentAction} (h : Since interfaces family actions later)
    (after : List AgentAction) : Since interfaces family (actions ++ after) (later ++ after) := by
  obtain ⟨subscribed, bound, rfl, hphase⟩ := h
  exact ⟨subscribed, bound, by simp, hphase⟩

/-- How far `run` has got, as a number. -/
def RunPhase.rank : RunPhase → Nat
  | .before .v4 => 0
  | .spawning .v4 _ _ => 1
  | .before .v6 => 2
  | .spawning .v6 _ _ => 3
  | .awaiting | .failed => 4

theorem AgentState.Step.rank_le (h : s.Step interfaces s') : s.phase.rank ≤ s'.phase.rank := by
  cases h with
  | idle => exact Nat.le_refl _
  | @subscribe family hphase => cases family <;> simp [hphase, RunPhase.rank]
  | @spawned family rx hphase => cases family <;> simp [hphase, RunPhase.rank, RunPhase.after]
  | @spawn family rx left hphase => cases family <;> simp [hphase, RunPhase.rank]
  | @fail family rx left hphase => cases family <;> simp [hphase, RunPhase.rank]
  | goOn => exact Nat.le_refl _
  | leave => exact Nat.le_refl _

theorem AgentState.rank_le_run (interfaces : Nat) (s : AgentState) (actions : List AgentAction) :
    s.phase.rank ≤ (run (step interfaces) s actions).phase.rank := by
  refine run_induction (P := fun _ (s' : AgentState) => s.phase.rank ≤ s'.phase.rank)
    (Nat.le_refl _) ?_ actions
  intro actions a ih
  refine Nat.le_trans ih ?_
  by_cases ha : a = .shutdown
  · rw [ha]
    exact Nat.le_refl _
  · exact (AgentState.step_inv _ interfaces ha).rank_le

/-- A family is subscribed for once. -/
theorem AgentState.not_before_again {bound : Bool} (h : s.phase = .before family)
    (actions : List AgentAction) :
    (run (step interfaces) s (.run bound :: actions)).phase ≠ .before family := by
  have hnext : (s.advance interfaces bound).phase
      = .spawning family ⟨s.channel.version⟩ interfaces := by
    rw [advance, h]
    rfl
  have hle : (s.advance interfaces bound).phase.rank
      ≤ (run (step interfaces) s (.run bound :: actions)).phase.rank :=
    rank_le_run interfaces _ actions
  intro hbefore
  rw [hbefore, hnext] at hle
  cases family <;> simp [RunPhase.rank] at hle

theorem Since.unique {later later' : List AgentAction} (h : Since interfaces family actions later)
    (h' : Since interfaces family actions later') : later = later' := by
  obtain ⟨subscribed, bound, rfl, hphase⟩ := h
  obtain ⟨subscribed', bound', heq, hphase'⟩ := h'
  rcases List.append_eq_append_iff.mp heq with ⟨between, rfl, hrest⟩ | ⟨between, rfl, hrest⟩
  · cases between with
    | nil => exact (List.cons.inj hrest).2
    | cons a between =>
        obtain rfl : .run bound = a := (List.cons.inj hrest).1
        rw [run_append] at hphase'
        exact absurd hphase' (AgentState.not_before_again hphase between)
  · cases between with
    | nil => exact (List.cons.inj hrest).2.symm
    | cons a between =>
        obtain rfl : .run bound' = a := (List.cons.inj hrest).1
        rw [run_append] at hphase
        exact absurd hphase (AgentState.not_before_again hphase' between)

/-! ### What becomes of a task -/

/-- The family has been subscribed for, and `told` says whether there has been a shutdown
since. -/
def Hears (interfaces : Nat) (family : Family) (actions : List AgentAction) (told : Prop) :
    Prop :=
  ∃ later, Since interfaces family actions later ∧ (told ↔ .shutdown ∈ later)

namespace Hears

variable {told told' : Prop}

theorem subscribe {bound : Bool}
    (hphase : (run (AgentState.step interfaces) {} actions).phase = .before family)
    (htold : ¬ told) : Hears interfaces family (actions ++ [.run bound]) told :=
  ⟨[], ⟨actions, bound, rfl, hphase⟩, by simpa using htold⟩

theorem concat (h : Hears interfaces family actions told) (ha : a ≠ .shutdown)
    (htold : told' ↔ told) : Hears interfaces family (actions ++ [a]) told' := by
  obtain ⟨later, hsince, hiff⟩ := h
  refine ⟨later ++ [a], hsince.append _, ?_⟩
  rw [htold, hiff, List.mem_append, List.mem_singleton]
  exact (or_iff_left ha.symm).symm

theorem shutdown (h : Hears interfaces family actions told) (htold : told') :
    Hears interfaces family (actions ++ [.shutdown]) told' := by
  obtain ⟨later, hsince, -⟩ := h
  exact ⟨later ++ [.shutdown], hsince.append _, by simpa using htold⟩

end Hears

/-- What the receiver that `run` has at hand, and each loop, is told. -/
structure AgentState.Sealed (interfaces : Nat) (actions : List AgentAction) (s : AgentState) :
    Prop where
  held : ∀ family rx left, s.phase = .spawning family rx left →
    Hears interfaces family actions (Told s.channel rx)
  loops : ∀ i loop, s.loops[i]? = some loop →
    Hears interfaces (Family.ofTask interfaces i) actions (loop.Leaves s.channel)

theorem AgentState.Sealed.shutdown (h : s.Sealed interfaces actions) (hsound : s.Sound interfaces) :
    s.shutdown.Sealed interfaces (actions ++ [.shutdown]) := by
  have hreceivers := hsound.receivers
  refine ⟨fun family rx left hphase => ?_, fun i loop hloop => ?_⟩
  · have hphase : s.phase = .spawning family rx left := hphase
    rw [hphase, RunPhase.held_spawning, Option.toList_some, List.length_singleton] at hreceivers
    refine (h.held family rx left hphase).shutdown (AgentState.told_shutdown (by omega) ?_)
    exact hsound.held rx (by rw [hphase]; rfl)
  · have hmem : loop ∈ s.loops := List.mem_of_getElem? hloop
    refine (h.loops i loop hloop).shutdown ?_
    cases hlistens : loop.listens with
    | false => exact ReceiveLoop.leaves_of_not_listens hlistens
    | true =>
        have hpos : 0 < s.loops.countP ReceiveLoop.listens :=
          List.countP_pos_iff.mpr ⟨loop, hmem, hlistens⟩
        exact ReceiveLoop.leaves_iff.mpr
          (.inr (AgentState.told_shutdown (by omega) (hsound.loops loop hmem)))

theorem AgentState.Sealed.step (h : s.Sealed interfaces actions) (hsound : s.Sound interfaces)
    (hs : s = run (step interfaces) {} actions) (ha : a ≠ .shutdown)
    (hstep : s.Step interfaces s') (hs' : s.step interfaces a = s') :
    s'.Sealed interfaces (actions ++ [a]) := by
  have hheld : ∀ family rx left, s.phase = .spawning family rx left →
      Hears interfaces family (actions ++ [a]) (Told s.channel rx) :=
    fun family rx left hphase => (h.held family rx left hphase).concat ha Iff.rfl
  refine ⟨?_, fun i loop' hloop' => ?_⟩
  · cases hstep with
    | idle => exact hheld
    | @subscribe family hphase =>
        intro family' rx left hnext
        obtain ⟨rfl, rfl, -⟩ := RunPhase.spawning.inj hnext
        -- no other action gets `run` there
        have hrun : ∃ bound, a = .run bound := by
          by_contra hnone
          have hsame : (s.step interfaces a).phase = s.phase := phase_step (not_exists.mp hnone)
          rw [hs', hphase] at hsame
          simp at hsame
        obtain ⟨bound, rfl⟩ := hrun
        exact .subscribe (hs ▸ hphase) fun htold => Nat.lt_irrefl _ htold.1
    | @spawned family rx hphase =>
        intro family' rx' left hnext
        cases family <;> simp [RunPhase.after] at hnext
    | @spawn family rx left hphase =>
        intro family' rx' left' hnext
        obtain ⟨rfl, rfl, -⟩ := RunPhase.spawning.inj hnext
        exact hheld family rx (left + 1) hphase
    | fail hphase =>
        intro family rx left hnext
        simp at hnext
    | goOn hloop hnext hphase => exact hheld
    | leave hloop hnext hphase => exact hheld
  · rcases hstep.loop_cases hloop' with ⟨loop, hloop, -, hleaves⟩
      | ⟨family, rx, left, hphase, rfl, hleaves⟩
    · exact (h.loops i loop hloop).concat ha hleaves
    · have hcounts := hsound.counts
      rw [hphase] at hcounts
      rw [hcounts.ofTask]
      exact (h.held family rx (left + 1) hphase).concat ha hleaves

theorem AgentState.sealed_run (interfaces : Nat) (actions : List AgentAction) :
    (run (step interfaces) {} actions).Sound interfaces
      ∧ (run (step interfaces) {} actions).Sealed interfaces actions := by
  refine run_induction
    (P := fun actions (s : AgentState) => s.Sound interfaces ∧ s.Sealed interfaces actions)
    ⟨sound_init, fun family rx left hphase => ?_, fun i loop hloop => ?_⟩ ?_ actions
  · simp at hphase
  · simp at hloop
  · rintro actions a ⟨hsound, hsealed⟩
    by_cases ha : a = .shutdown
    · rw [ha]
      exact ⟨hsound.shutdown, hsealed.shutdown hsound⟩
    · have hstep := step_inv (run (step interfaces) {} actions) interfaces ha
      exact ⟨hsound.step hstep, hsealed.step hsound rfl ha hstep rfl⟩

/-- **A task leaves exactly if there has been a shutdown since its family's subscription.** In
every run, with any number of shutdowns and sockets that cannot be bound, and wherever `run`
and the other tasks are. What was sent before the subscription does not count, and no task
leaves of itself; those of a `run` that has failed go on until there is a shutdown. -/
theorem AgentState.task_leaves_iff {i : Nat}
    (h : (run (step interfaces) {} actions).loops[i]? = some loop) :
    (∃ later, Since interfaces (Family.ofTask interfaces i) actions later)
      ∧ ∀ later, Since interfaces (Family.ofTask interfaces i) actions later →
        (loop.Leaves (run (step interfaces) {} actions).channel ↔ .shutdown ∈ later) := by
  obtain ⟨-, hsealed⟩ := sealed_run interfaces actions
  obtain ⟨later, hsince, hiff⟩ := hsealed.loops i loop h
  refine ⟨⟨later, hsince⟩, fun later' hsince' => ?_⟩
  rw [hsince'.unique hsince]
  exact hiff

end

/-! ### What becomes of `run` -/

/-- `run` has returned, all tasks being done. -/
def AgentState.Returned (s : AgentState) : Prop :=
  s.phase = .awaiting ∧ ∀ loop ∈ s.loops, loop.phase = .left

/-- Each task gets to the end of what it may be handling, and then to its select. -/
def Turns (tasks : Nat) (actions : List AgentAction) : Prop :=
  ∀ i < tasks, ∃ packet, [.handled i, .select i packet].Sublist actions

/-- The turns that a loop needs to be left, once it leaves. -/
def ReceiveLoop.Due (i : Nat) (turns : List AgentAction) (loop : ReceiveLoop) : Prop :=
  loop.phase = .left ∨ (∃ packet, turns = [.select i packet]) ∧ loop.phase = .selecting
    ∨ ∃ packet, turns = [.handled i, .select i packet]

/-- The `i`th loop leaves, and this is what it needs. -/
def AgentState.LeavesWith (i : Nat) (turns : List AgentAction) (s : AgentState) : Prop :=
  ∃ loop, s.loops[i]? = some loop ∧ loop.Leaves s.channel ∧ loop.Due i turns

section

variable {interfaces : Nat} {s s' : AgentState} {a : AgentAction} {channel : Watch Bool}
  {loop next : ReceiveLoop} {i : Nat} {actions after later turns : List AgentAction}

/-- A loop that leaves does not handle another packet. -/
theorem ReceiveLoop.Next.of_leaves (h : Next channel loop next) (hleaves : loop.Leaves channel) :
    next.phase = .left ∨ loop.phase = .handling ∧ next.phase = .selecting := by
  cases h with
  | select rx packet =>
      refine .inl (hleaves.resolve_left ?_ packet)
      simp
  | handled rx => exact .inr ⟨rfl, rfl⟩

theorem AgentState.Step.length_le (h : s.Step interfaces s') :
    s.loops.length ≤ s'.loops.length := by
  cases h <;> simp

/-- What is there goes on to be there. -/
theorem AgentState.Step.loop_stays (h : s.Step interfaces s') (hloop : s.loops[i]? = some loop) :
    ∃ loop', s'.loops[i]? = some loop' ∧ (loop' = loop ∨ ReceiveLoop.Next s.channel loop loop')
      ∧ (loop'.Leaves s'.channel ↔ loop.Leaves s.channel) := by
  obtain ⟨hlt, -⟩ := List.getElem?_eq_some_iff.mp hloop
  have hlt' : i < s'.loops.length := Nat.lt_of_lt_of_le hlt h.length_le
  have hloop' : s'.loops[i]? = some s'.loops[i] := List.getElem?_eq_getElem hlt'
  refine ⟨s'.loops[i], hloop', ?_⟩
  rcases h.loop_cases hloop' with ⟨loop', hsame, hnext⟩ | ⟨family, rx, left, -, hi, -⟩
  · obtain rfl := Option.some.inj (hloop.symm.trans hsame)
    exact hnext
  · exact absurd hi (Nat.ne_of_lt hlt)

theorem AgentState.LeavesWith.keep (ha : a ≠ .shutdown) (h : s.LeavesWith i turns) :
    (s.step interfaces a).LeavesWith i turns := by
  obtain ⟨loop, hloop, hleaves, hdue⟩ := h
  obtain ⟨loop', hloop', hnext, hiff⟩ := (step_inv s interfaces ha).loop_stays hloop
  refine ⟨loop', hloop', hiff.mpr hleaves, ?_⟩
  rcases hnext with rfl | hnext
  · exact hdue
  · rcases hnext.of_leaves hleaves with hleft | ⟨hhandling, hselecting⟩
    · exact .inl hleft
    · rcases hdue with hphase | ⟨-, hphase⟩ | hdue
      · simp [hhandling] at hphase
      · simp [hhandling] at hphase
      · exact .inr (.inr hdue)

/-- A loop at its select, whose turn it is. -/
theorem AgentState.loops_select {rx : Watch.Receiver} (packet : Bool)
    (hloop : s.loops[i]? = some ⟨rx, .selecting⟩) :
    (s.step interfaces (.select i packet)).loops[i]?
      = some (ReceiveLoop.select s.channel packet ⟨rx, .selecting⟩) := by
  obtain ⟨hlt, -⟩ := List.getElem?_eq_some_iff.mp hloop
  rw [step, select, hloop]
  exact List.getElem?_set_self hlt

/-- A loop that gets to the end of what it may be handling. -/
theorem AgentState.loops_handled (hloop : s.loops[i]? = some loop) (hleft : loop.phase ≠ .left) :
    (s.step interfaces (.handled i)).loops[i]? = some { loop with phase := .selecting } := by
  obtain ⟨hlt, -⟩ := List.getElem?_eq_some_iff.mp hloop
  obtain ⟨rx, phase⟩ := loop
  rw [step, handled, hloop]
  cases phase with
  | selecting => exact hloop
  | handling => exact List.getElem?_set_self hlt
  | left => exact absurd rfl hleft

theorem AgentState.LeavesWith.turn (ha : a ≠ .shutdown) (h : s.LeavesWith i (a :: turns)) :
    (s.step interfaces a).LeavesWith i turns := by
  obtain ⟨loop, hloop, hleaves, hdue⟩ := h
  obtain ⟨loop', hloop', hnext, hiff⟩ := (step_inv s interfaces ha).loop_stays hloop
  refine ⟨loop', hloop', hiff.mpr hleaves, ?_⟩
  by_cases hleft : loop.phase = .left
  · rcases hnext with rfl | hnext
    · exact .inl hleft
    · rcases hnext.of_leaves hleaves with hleft' | ⟨hhandling, -⟩
      · exact .inl hleft'
      · simp [hleft] at hhandling
  · rcases hdue with hphase | ⟨⟨packet, hturns⟩, hphase⟩ | ⟨packet, hturns⟩
    · exact absurd hphase hleft
    · obtain ⟨rfl, rfl⟩ := List.cons.inj hturns
      obtain ⟨rx, phase⟩ := loop
      obtain rfl : phase = .selecting := hphase
      rw [AgentState.loops_select packet hloop] at hloop'
      obtain rfl := Option.some.inj hloop'
      exact .inl (hleaves.resolve_left hleft packet)
    · obtain ⟨rfl, rfl⟩ := List.cons.inj hturns
      rw [AgentState.loops_handled hloop hleft] at hloop'
      obtain rfl := Option.some.inj hloop'
      exact .inr (.inl ⟨⟨packet, rfl⟩, rfl⟩)

/-- **A loop that leaves is left with its next turns**, whatever the others do meanwhile. -/
theorem AgentState.left_of_turns {packet : Bool} (hloop : s.loops[i]? = some loop)
    (hleaves : loop.Leaves s.channel) (hnone : .shutdown ∉ after)
    (hturns : [.handled i, .select i packet].Sublist after) :
    ∃ loop', (run (step interfaces) s after).loops[i]? = some loop' ∧ loop'.phase = .left := by
  obtain ⟨loop', hloop', -, hdue⟩ :=
    run_turns (I := LeavesWith i) (G := fun a => a ≠ .shutdown)
      (fun _ _ _ ha hs => hs.keep ha) (fun _ _ _ ha hs => hs.turn ha) hturns
      (fun a ha hshutdown => hnone (hshutdown ▸ ha))
      ⟨loop, hloop, hleaves, .inr (.inr ⟨packet, rfl⟩)⟩
  refine ⟨loop', hloop', ?_⟩
  rcases hdue with hleft | ⟨⟨packet, hnil⟩, -⟩ | ⟨packet, hnil⟩
  · exact hleft
  · simp at hnil
  · simp at hnil

/-- `run` goes on awaiting. -/
theorem AgentState.awaiting_run (hphase : s.phase = .awaiting) (actions : List AgentAction) :
    (run (step interfaces) s actions).phase = .awaiting := by
  refine run_induction (P := fun _ (s' : AgentState) => s'.phase = .awaiting) hphase ?_ actions
  intro actions a ih
  cases a with
  | run bound =>
      rw [step, advance, ih]
      exact ih
  | shutdown => exact ih
  | select i packet => exact (phase_step (by simp)).trans ih
  | handled i => exact (phase_step (by simp)).trans ih

/-- What comes behind the second subscription comes behind the first. -/
theorem Since.mem_of_v6 {later' : List AgentAction} (h : Since interfaces .v6 actions later)
    (h' : Since interfaces .v4 actions later') (ha : a ∈ later) : a ∈ later' := by
  obtain ⟨subscribed, bound, rfl, hphase⟩ := h
  obtain ⟨subscribed', bound', heq, hphase'⟩ := h'
  rcases List.append_eq_append_iff.mp heq with ⟨between, rfl, -⟩ | ⟨between, rfl, hrest⟩
  · -- `run` would have gone back
    have hle := AgentState.rank_le_run interfaces
      (run (AgentState.step interfaces) {} subscribed) between
    rw [run_append] at hphase'
    rw [hphase', hphase] at hle
    simp [RunPhase.rank] at hle
  · cases between with
    | nil =>
        rw [List.append_nil] at hphase
        simp [hphase'] at hphase
    | cons b between =>
        obtain ⟨-, rfl⟩ := List.cons.inj hrest
        exact List.mem_append_right _ (List.mem_cons_of_mem _ ha)

/-- The tasks that `run` awaits, by number. -/
theorem AgentState.Sound.length_of_awaiting (h : s.Sound interfaces)
    (hphase : s.phase = .awaiting) : s.loops.length = interfaces + interfaces := by
  have hcounts := h.counts
  rwa [hphase] at hcounts

/-- Behind the second subscription a shutdown gets to all tasks. -/
theorem AgentState.leaves_of_v6 (hsince : Since interfaces .v6 actions later)
    (hshutdown : .shutdown ∈ later)
    (hloop : (run (step interfaces) {} actions).loops[i]? = some loop) :
    loop.Leaves (run (step interfaces) {} actions).channel := by
  obtain ⟨-, hsealed⟩ := sealed_run interfaces actions
  obtain ⟨later', hsince', hiff⟩ := hsealed.loops i loop hloop
  refine hiff.mpr ?_
  cases hfamily : Family.ofTask interfaces i with
  | v4 => exact hsince.mem_of_v6 (hfamily ▸ hsince') hshutdown
  | v6 =>
      obtain rfl := hsince.unique (hfamily ▸ hsince')
      exact hshutdown

/-- **When `run` returns.** Once it awaits its tasks, and with no further shutdown, it has
returned when each of them has had its turns exactly if there has been a shutdown since the
second subscription, or there is no interface. Else some task goes on. -/
theorem AgentState.run_returns_iff (hphase : (run (step interfaces) {} actions).phase = .awaiting)
    (hsince : Since interfaces .v6 actions later) (hnone : .shutdown ∉ after)
    (hturns : Turns (interfaces + interfaces) after) :
    (run (step interfaces) {} (actions ++ after)).Returned
      ↔ interfaces = 0 ∨ .shutdown ∈ later := by
  obtain ⟨hsound, -⟩ := sealed_run interfaces actions
  obtain ⟨hsound', hsealed'⟩ := sealed_run interfaces (actions ++ after)
  have hawaiting : (run (step interfaces) {} (actions ++ after)).phase = .awaiting := by
    rw [run_append]
    exact awaiting_run hphase after
  have hlength := hsound.length_of_awaiting hphase
  have hlength' := hsound'.length_of_awaiting hawaiting
  constructor
  · rintro ⟨-, hleft⟩
    by_cases hzero : interfaces = 0
    · exact .inl hzero
    · -- the first DHCPv6 task has been left
      have hlt : interfaces < (run (step interfaces) {} (actions ++ after)).loops.length := by
        omega
      obtain ⟨later', hsince', hiff⟩ :=
        hsealed'.loops interfaces _ (List.getElem?_eq_getElem hlt)
      rw [Family.ofTask, if_neg (Nat.lt_irrefl _)] at hsince'
      obtain rfl := hsince'.unique (hsince.append after)
      have hmem := hiff.mp (.inl (hleft _ (List.getElem_mem hlt)))
      exact .inr ((List.mem_append.mp hmem).resolve_right hnone)
  · intro h
    refine ⟨hawaiting, fun loop' hloop' => ?_⟩
    obtain ⟨i, hi⟩ := List.mem_iff_getElem?.mp hloop'
    obtain ⟨hlt', -⟩ := List.getElem?_eq_some_iff.mp hi
    rcases h with rfl | hshutdown
    · simp [hlength'] at hlt'
    · have hlt : i < (run (step interfaces) {} actions).loops.length := by omega
      have hloop := List.getElem?_eq_getElem hlt
      obtain ⟨packet, hsub⟩ := hturns i (by omega)
      obtain ⟨loop, hget, hleft⟩ :=
        left_of_turns hloop (leaves_of_v6 hsince hshutdown hloop) hnone hsub
      rw [run_append] at hi
      obtain rfl := Option.some.inj (hget.symm.trans hi)
      exact hleft

end

/-- An agent with one interface is shut down before it subscribes for DHCPv6. -/
def sampleEarly : List AgentAction :=
  [.run true, .run true, .run true, .shutdown, .run true, .run true]

/-- Its DHCPv4 task leaves, its DHCPv6 task does not. -/
theorem sampleEarly_leaves :
    (ReceiveLoop.mk ⟨0⟩ .selecting).Leaves (run (AgentState.step 1) {} sampleEarly).channel
      ∧ ¬ (ReceiveLoop.mk ⟨1⟩ .selecting).Leaves
        (run (AgentState.step 1) {} sampleEarly).channel := by
  have hv4 : Since 1 (Family.ofTask 1 0) sampleEarly
      [.run true, .run true, .shutdown, .run true, .run true] := ⟨[], true, rfl, rfl⟩
  have hv6 : Since 1 (Family.ofTask 1 1) sampleEarly [.run true] :=
    ⟨[.run true, .run true, .run true, .shutdown], true, rfl, rfl⟩
  refine ⟨((AgentState.task_leaves_iff rfl).2 _ hv4).mpr (by simp), fun h => ?_⟩
  have hmem := ((AgentState.task_leaves_iff rfl).2 _ hv6).mp h
  simp at hmem

/-- One that is shut down while it awaits its two tasks, one of which is handling a packet. -/
def sampleAwaiting : List AgentAction := sampleStartup ++ [.select 1 true, .shutdown]

def sampleTurns : List AgentAction := [.select 0 true, .handled 0, .handled 1, .select 0 true,
  .select 1 true]

theorem sampleTurns_returned :
    (run (AgentState.step 1) {} (sampleAwaiting ++ sampleTurns)).Returned := by
  have hsince : Since 1 .v6 sampleAwaiting [.run true, .run true, .select 1 true, .shutdown] :=
    ⟨[.run true, .run true, .run true], true, rfl, rfl⟩
  have hnone : .shutdown ∉ sampleTurns := by simp [sampleTurns]
  have hturns : Turns (1 + 1) sampleTurns := by
    intro i hi
    obtain rfl | rfl : i = 0 ∨ i = 1 := by omega
    · exact ⟨true, .cons _ (.cons_cons _ (.cons _ (.cons_cons _ (List.nil_sublist _))))⟩
    · exact ⟨true, .cons _ (.cons _ (.cons_cons _ (.cons _ (.cons_cons _ (List.nil_sublist _)))))⟩
  exact (AgentState.run_returns_iff rfl hsince hnone hturns).mpr (.inr (by simp))

end DhcpRelay
