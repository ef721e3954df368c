import DhcpRelay.Smf.DpdWindow
import DhcpRelay.Smf.Engine

/-!
# DhcpRelay.Smf.Eviction

**The eviction task of the cache** (`spawn_eviction_task` in `smf/dpd.rs`, `start_eviction` in
`smf/engine.rs`) and how long a packet identifier is remembered.

A check never looks at the age of the entry it finds, so what is forgotten is decided by the
schedule of the task alone. Its ticks are an interval apart, a quarter of the window, and each
of them removes the entries whose window is over; so an entry that is still there is younger
than a window and an interval (`Ticking`). Where that interval is less than a second no task is
started, and what is accepted once is remembered for good.
-/

namespace DhcpRelay.Smf

open DhcpRelay.Library

/-- The loop of the eviction task: its `tokio::time::interval`, and the next tick of it. -/
structure EvictionTask where
  interval : Nat
  nextTick : Int

/-- Spawn a background task that periodically evicts expired entries, if the interval is not
too short. The first tick of an interval completes immediately. -/
def spawnEvictionTask (cache : DpdCache) (now : Int) : Option EvictionTask :=
  let interval := cache.window / 4
  if interval < fromSecs 1 then none
  else some { interval := interval, nextTick := now }

/-- Start the background eviction task. -/
def SmfEngine.startEviction (engine : SmfEngine) (now : Int) : Option EvictionTask :=
  spawnEvictionTask engine.dpdCache now

/-- A cache in use, and its eviction task. -/
structure CacheInUse where
  now : Int
  history : History
  task : Option EvictionTask

/-- What may happen next: a check, a tick of the task, or nothing for a while. -/
inductive CacheAction
  | check (key : DpdKey) (ttl : UInt8)
  | tick
  | pass (instants : Nat)

namespace CacheInUse

/-- One round of the loop, if its tick has come. -/
def tick (s : CacheInUse) : CacheInUse :=
  match s.task with
  | some task =>
    if task.nextTick ≤ s.now then
      { s with
        history := s.history.step (.evict s.now)
        task := some { task with nextTick := task.nextTick + task.interval } }
    else s
  | none => s

/-- Time passes, but no tick is passed over. -/
def pass (s : CacheInUse) (instants : Nat) : CacheInUse :=
  match s.task with
  | some task => if s.now + instants ≤ task.nextTick then { s with now := s.now + instants } else s
  | none => { s with now := s.now + instants }

def step (s : CacheInUse) : CacheAction → CacheInUse
  | .check key ttl => { s with history := s.history.step (.check key ttl s.now) }
  | .tick => s.tick
  | .pass instants => s.pass instants

/-- The cache of a new engine, on which eviction is started at once. -/
def ofEngine (engine : SmfEngine) (now : Int) : CacheInUse where
  now := now
  history := { cache := engine.dpdCache, calls := [] }
  task := engine.startEviction now

/-- An identifier is accepted when it was accepted last more than a window and a quarter ago,
or never. -/
def Expires (window : Nat) (calls : List Call) : Prop :=
  ∀ before call, before ++ [call] <+: calls →
    (∀ earlier ∈ before, earlier.key = call.key → earlier.Accepted →
      earlier.time + ((window + window / 4 : Nat) : Int) < call.time) → call.Accepted

/-- An identifier that was accepted is not accepted again, unless with a larger TTL. -/
def Sticks (calls : List Call) : Prop :=
  ∀ before call, before ++ [call] <+: calls →
    (∃ earlier ∈ before, earlier.key = call.key ∧ earlier.Accepted ∧ call.ttl ≤ earlier.ttl) →
      ¬ call.Accepted

variable {window : Nat} {nextTick : Int} {s : CacheInUse} {key : DpdKey} {ttl : UInt8}

/-- **What a check does here**: it is accepted and recorded, or refused where there is an entry
for its key. -/
theorem check_cases (s : CacheInUse) (key : DpdKey) (ttl : UInt8) :
    (s.history.cache.Fresh key ttl ∧ s.step (.check key ttl) = { s with history := {
        cache := s.history.cache.put key { firstSeen := s.now, ttl := ttl }
        calls := s.history.calls
          ++ [{ key := key, ttl := ttl, time := s.now, result := .ok true }] } })
      ∨ ∃ entry result, s.history.cache.map key = some entry ∧ result ≠ .ok true
        ∧ s.step (.check key ttl) = { s with history := { s.history with
          calls := s.history.calls
            ++ [{ key := key, ttl := ttl, time := s.now, result := result }] } } := by
  rcases s.history.cache.checkAndInsert_cases key ttl s.now with
    ⟨hfresh, hrun⟩ | ⟨entry, hentry, -, hrun⟩ | ⟨entry, hentry, -, hrun⟩
  · refine .inl ⟨hfresh, ?_⟩
    rw [step, History.step, hrun]
  · refine .inr ⟨entry, .ok false, hentry, by simp, ?_⟩
    rw [step, History.step, hrun]
  · refine .inr ⟨entry, .error .dpdStalePacket, hentry, by simp, ?_⟩
    rw [step, History.step, hrun]

/-! ### With a task -/

/-- **The invariant with a task.** The next tick is ahead, by no more than an interval, and what
is in the cache survived the last one; each entry is that of an accepted check. -/
structure Ticking (window : Nat) (nextTick : Int) (s : CacheInUse) : Prop where
  window_eq : s.history.cache.window = window
  task_eq : s.task = some { interval := window / 4, nextTick := nextTick }
  ahead : s.now ≤ nextTick
  near : nextTick ≤ s.now + (window / 4 : Nat)
  young : ∀ key entry, s.history.cache.map key = some entry →
    nextTick < entry.firstSeen + ((window + window / 4 : Nat) : Int)
  stamped : ∀ key entry, s.history.cache.map key = some entry →
    ∃ call ∈ s.history.calls, call.key = key ∧ call.Accepted ∧ call.time = entry.firstSeen
  expires : Expires window s.history.calls

/-- Time passes up to the next tick. -/
theorem Ticking.pass (h : Ticking window nextTick s) (instants : Nat) :
    Ticking window nextTick (s.pass instants) := by
  rw [CacheInUse.pass, h.task_eq]
  dsimp only
  split
  · next hle =>
      have hnear := h.near
      exact { h with
        task_eq := rfl
        ahead := hle
        near := by show nextTick ≤ s.now + instants + _; omega }
  · exact h

/-- A tick is on time, and what survives it is younger than the window. -/
theorem Ticking.tick (h : Ticking window nextTick s) :
    ∃ nextTick', Ticking window nextTick' s.tick := by
  rw [CacheInUse.tick, h.task_eq]
  dsimp only
  split
  · next hdue =>
      have honTime : s.now = nextTick := le_antisymm h.ahead hdue
      refine ⟨nextTick + (window / 4 : Nat), ?_⟩
      constructor
      case window_eq => exact h.window_eq
      case task_eq => rfl
      case ahead =>
        show s.now ≤ _
        omega
      case near =>
        show _ ≤ s.now + _
        omega
      case young =>
        intro key entry hentry
        obtain ⟨-, hage⟩ := DpdCache.evictExpired_map.mp hentry
        rw [h.window_eq] at hage
        omega
      case stamped =>
        intro key entry hentry
        exact h.stamped key entry (DpdCache.evictExpired_map.mp hentry).1
      case expires => exact h.expires
  · exact ⟨nextTick, h⟩

/-- What is in the cache was accepted no longer ago than a window and an interval. -/
theorem Ticking.recent (h : Ticking window nextTick s) {entry : DpdEntry}
    (hentry : s.history.cache.map key = some entry) :
    ∃ call ∈ s.history.calls, call.key = key ∧ call.Accepted
      ∧ s.now ≤ call.time + ((window + window / 4 : Nat) : Int) := by
  obtain ⟨call, hcall, hkey, hok, htime⟩ := h.stamped key entry hentry
  have hahead := h.ahead
  have hyoung := h.young key entry hentry
  exact ⟨call, hcall, hkey, hok, by omega⟩

/-- A check that is accepted leaves an entry with the time of the check. -/
theorem Ticking.accept (h : Ticking window nextTick s) (hpos : 0 < window) (key : DpdKey)
    (ttl : UInt8) : Ticking window nextTick { s with history := {
      cache := s.history.cache.put key { firstSeen := s.now, ttl := ttl }
      calls := s.history.calls
        ++ [{ key := key, ttl := ttl, time := s.now, result := .ok true }] } } where
  window_eq := h.window_eq
  task_eq := h.task_eq
  ahead := h.ahead
  near := h.near
  young := by
    intro k entry hentry
    have hnear := h.near
    rw [DpdCache.put_map] at hentry
    split at hentry
    · obtain rfl := Option.some.inj hentry
      show nextTick < s.now + _
      omega
    · exact h.young k entry hentry
  stamped := by
    intro k entry hentry
    rw [DpdCache.put_map] at hentry
    split at hentry
    · next hk =>
        obtain rfl := Option.some.inj hentry
        exact ⟨_, List.mem_append_right _ (List.mem_singleton_self _), hk.symm, rfl, rfl⟩
    · obtain ⟨call, hcall, hfacts⟩ := h.stamped k entry hentry
      exact ⟨call, List.mem_append_left _ hcall, hfacts⟩
  expires := forall_prefix_concat_iff.mpr ⟨h.expires, fun _ => rfl⟩

/-- A check is refused because of a recent one. -/
theorem Ticking.refuse (h : Ticking window nextTick s) {entry : DpdEntry}
    (hentry : s.history.cache.map key = some entry) (ttl : UInt8) (result : RelayResult Bool) :
    Ticking window nextTick { s with history := { s.history with
      calls := s.history.calls
        ++ [{ key := key, ttl := ttl, time := s.now, result := result }] } } where
  window_eq := h.window_eq
  task_eq := h.task_eq
  ahead := h.ahead
  near := h.near
  young := h.young
  stamped := by
    intro k entry hentry
    obtain ⟨call, hcall, hfacts⟩ := h.stamped k entry hentry
    exact ⟨call, List.mem_append_left _ hcall, hfacts⟩
  expires := by
    refine forall_prefix_concat_iff.mpr ⟨h.expires, fun hlong => ?_⟩
    -- the entry that refuses the check contradicts that the last one was long ago
    obtain ⟨call, hcall, hkey, hok, hrecent⟩ := h.recent hentry
    have hago := hlong call hcall hkey hok
    exact absurd hago (not_lt_of_ge hrecent)

theorem Ticking.check (h : Ticking window nextTick s) (hpos : 0 < window) (key : DpdKey)
    (ttl : UInt8) : Ticking window nextTick (s.step (.check key ttl)) := by
  rcases s.check_cases key ttl with ⟨-, hrun⟩ | ⟨entry, result, hentry, -, hrun⟩
  · rw [hrun]
    exact h.accept hpos key ttl
  · rw [hrun]
    exact h.refuse hentry ttl result

/-- **One step with a task.** -/
theorem Ticking.step (h : Ticking window nextTick s) (hpos : 0 < window) (action : CacheAction) :
    ∃ nextTick', Ticking window nextTick' (s.step action) := by
  cases action with
  | check key ttl => exact ⟨nextTick, h.check hpos key ttl⟩
  | tick => exact h.tick
  | pass instants => exact ⟨nextTick, h.pass instants⟩

/-! ### Without a task -/

/-- **The invariant without a task.** What was accepted is in the cache, with that TTL or a
larger one. -/
structure Unattended (s : CacheInUse) : Prop where
  task_eq : s.task = none
  kept : ∀ call ∈ s.history.calls, call.Accepted →
    ∃ entry, s.history.cache.map call.key = some entry ∧ call.ttl ≤ entry.ttl
  sticks : Sticks s.history.calls

/-- A check that is accepted leaves an entry with its TTL, larger than the one before. -/
theorem Unattended.accept (h : Unattended s) (hfresh : s.history.cache.Fresh key ttl) :
    Unattended { s with history := {
      cache := s.history.cache.put key { firstSeen := s.now, ttl := ttl }
      calls := s.history.calls
        ++ [{ key := key, ttl := ttl, time := s.now, result := .ok true }] } } where
  task_eq := h.task_eq
  kept := by
    intro call hcall hok
    show ∃ entry, (s.history.cache.put key _).map call.key = some entry ∧ _
    rw [DpdCache.put_map]
    rcases List.mem_append.mp hcall with hcall | hcall
    · obtain ⟨entry, hentry, hle⟩ := h.kept call hcall hok
      split
      · next hkey =>
          rw [hkey] at hentry
          exact ⟨_, rfl, hle.trans (hfresh entry hentry).le⟩
      · exact ⟨entry, hentry, hle⟩
    · obtain rfl := List.mem_singleton.mp hcall
      exact ⟨_, if_pos rfl, le_rfl⟩
  sticks := by
    refine forall_prefix_concat_iff.mpr ⟨h.sticks, fun hearlier _ => ?_⟩
    -- the entry of the earlier check is not smaller
    obtain ⟨earlier, hmem, hkey, hok, hle⟩ := hearlier
    obtain ⟨entry, hentry, hkept⟩ := h.kept earlier hmem hok
    rw [hkey] at hentry
    exact absurd (hfresh entry hentry) (not_lt_of_ge (hle.trans hkept))

/-- A check that is refused adds nothing to what was accepted. -/
theorem Unattended.refuse (h : Unattended s) {result : RelayResult Bool}
    (hrefused : result ≠ .ok true) (key : DpdKey) (ttl : UInt8) :
    Unattended { s with history := { s.history with
      calls := s.history.calls
        ++ [{ key := key, ttl := ttl, time := s.now, result := result }] } } where
  task_eq := h.task_eq
  kept := by
    intro call hcall hok
    rcases List.mem_append.mp hcall with hcall | hcall
    · exact h.kept call hcall hok
    · obtain rfl := List.mem_singleton.mp hcall
      exact absurd hok hrefused
  sticks := forall_prefix_concat_iff.mpr ⟨h.sticks, fun _ => hrefused⟩

theorem Unattended.check (h : Unattended s) (key : DpdKey) (ttl : UInt8) :
    Unattended (s.step (.check key ttl)) := by
  rcases s.check_cases key ttl with ⟨hfresh, hrun⟩ | ⟨entry, result, -, hrefused, hrun⟩
  · rw [hrun]
    exact h.accept hfresh
  · rw [hrun]
    exact h.refuse hrefused key ttl

/-- **One step without a task.** -/
theorem Unattended.step (h : Unattended s) (action : CacheAction) : Unattended (s.step action) := by
  cases action with
  | check key ttl => exact h.check key ttl
  | tick =>
      show Unattended s.tick
      rw [CacheInUse.tick, h.task_eq]
      exact h
  | pass instants =>
      show Unattended (s.pass instants)
      rw [CacheInUse.pass, h.task_eq]
      exact ⟨rfl, h.kept, h.sticks⟩

/-! ### Runs -/

/-- The checks made in a run of a new engine, on which eviction is started at once. -/
def calls (config : SmfConfig) (localAddrs : List IpAddr) (start : Int)
    (actions : List CacheAction) : List Call :=
  (run step (ofEngine (.new config localAddrs) start) actions).history.calls

variable {config : SmfConfig} {localAddrs : List IpAddr} {start : Int}

theorem fromSecs_div (secs : Nat) : fromSecs secs / 4 < fromSecs 1 ↔ secs < 4 := by
  rw [fromSecs, fromSecs]
  omega

/-- A window of four seconds or more gets a task. -/
theorem ofEngine_ticking (h : 4 ≤ config.dpdWindowSecs) :
    Ticking (fromSecs config.dpdWindowSecs) start
      (ofEngine (.new config localAddrs) start) where
  window_eq := rfl
  task_eq := if_neg (by rw [SmfEngine.new, DpdCache.new, fromSecs_div]; omega)
  ahead := le_rfl
  near := by
    show start ≤ start + _
    omega
  young := by simp [ofEngine, SmfEngine.new, DpdCache.new]
  stamped := by simp [ofEngine, SmfEngine.new, DpdCache.new]
  expires := by simp [ofEngine, Expires]

/-- A smaller one does not. -/
theorem ofEngine_unattended (h : config.dpdWindowSecs < 4) :
    Unattended (ofEngine (.new config localAddrs) start) where
  task_eq := if_pos ((fromSecs_div _).mpr h)
  kept := by simp [ofEngine]
  sticks := by simp [ofEngine, Sticks]

/-- **How long an identifier is remembered**, over any run: with a window of four seconds or
more, for a window and a quarter at most; with a smaller one, for good. -/
theorem eviction_expires (config : SmfConfig) (localAddrs : List IpAddr) (start : Int)
    (actions : List CacheAction) :
    (4 ≤ config.dpdWindowSecs →
        Expires (fromSecs config.dpdWindowSecs) (calls config localAddrs start actions))
      ∧ (config.dpdWindowSecs < 4 → Sticks (calls config localAddrs start actions)) := by
  constructor
  · intro hlong
    have hpos : 0 < fromSecs config.dpdWindowSecs := by
      rw [fromSecs]
      omega
    have hticking : ∃ nextTick, Ticking (fromSecs config.dpdWindowSecs) nextTick
        (run step (ofEngine (.new config localAddrs) start) actions) := by
      refine run_induction (P := fun _ s => ∃ nextTick,
        Ticking (fromSecs config.dpdWindowSecs) nextTick s) ⟨_, ofEngine_ticking hlong⟩ ?_ actions
      intro _ action ih
      obtain ⟨nextTick, ih⟩ := ih
      exact ih.step hpos action
    obtain ⟨nextTick, h⟩ := hticking
    exact h.expires
  · intro hshort
    have hunattended : Unattended (run step (ofEngine (.new config localAddrs) start) actions) :=
      run_induction (P := fun _ s => Unattended s) (ofEngine_unattended hshort)
        (fun _ action ih => ih.step action) actions
    exact hunattended.sticks

/-- A window of one second. -/
def sampleShortWindow : SmfConfig := { dpdWindowSecs := 1 }

/-- A packet, and the same one two seconds later. -/
def sampleActions : List CacheAction :=
  [.check sampleKey 64, .pass (fromSecs 2), .check sampleKey 64]

/-- It is still refused then. -/
theorem sampleActions_remembered :
    ¬ Expires (fromSecs sampleShortWindow.dpdWindowSecs)
        (calls sampleShortWindow [] 0 sampleActions) := by
  have hcalls : calls sampleShortWindow [] 0 sampleActions
      = [{ key := sampleKey, ttl := 64, time := 0, result := .ok true },
        { key := sampleKey, ttl := 64, time := 2000000000, result := .ok false }] := by rfl
  intro h
  rw [hcalls] at h
  have haccepted := h [_] _ (List.prefix_refl _) (by
    intro earlier hmem _ _
    obtain rfl := List.mem_singleton.mp hmem
    decide)
  simp [Call.Accepted] at haccepted

end CacheInUse

end DhcpRelay.Smf
