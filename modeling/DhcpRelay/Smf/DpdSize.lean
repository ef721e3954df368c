import DhcpRelay.Smf.Eviction
import Mathlib.Data.Set.Card

/-!
# DhcpRelay.Smf.DpdSize

**How large the cache gets.** Nothing limits the number of entries but the eviction task. With
a task there are never more of them than checks were accepted within the last window and a
quarter; without one, that is with a window of less than four seconds, there is an entry for
every identifier that was ever checked.
-/

namespace DhcpRelay.Smf

open DhcpRelay.Library

namespace DpdCache

/-- The keys that have an entry. -/
def keys (cache : DpdCache) : Set DpdKey := {key | (cache.map key).isSome}

/-- Return the number of entries currently in the cache. -/
noncomputable def len (cache : DpdCache) : Nat := cache.keys.ncard

/-- Return true if the cache is empty. -/
def IsEmpty (cache : DpdCache) : Prop := ∀ key, cache.map key = none

/-- A cache whose keys are among those of a list has no more entries than the list is long. -/
theorem len_le_length {cache : DpdCache} {keys : List DpdKey} (h : ∀ key ∈ cache.keys, key ∈ keys) :
    cache.keys.Finite ∧ cache.len ≤ keys.length := by
  have hsub : cache.keys ⊆ (keys.toFinset : Set DpdKey) := fun key hkey =>
    Finset.mem_coe.mpr (List.mem_toFinset.mpr (h key hkey))
  refine ⟨keys.toFinset.finite_toSet.subset hsub, ?_⟩
  calc cache.len ≤ (keys.toFinset : Set DpdKey).ncard :=
        Set.ncard_le_ncard hsub keys.toFinset.finite_toSet
    _ = keys.toFinset.card := Set.ncard_coe_finset _
    _ ≤ keys.length := keys.toFinset_card_le

/-- An empty cache is one of length zero. -/
theorem isEmpty_iff {cache : DpdCache} (h : cache.keys.Finite) :
    cache.IsEmpty ↔ cache.len = 0 := by
  rw [len, Set.ncard_eq_zero h, Set.eq_empty_iff_forall_notMem]
  simp [IsEmpty, keys]

theorem keys_put (cache : DpdCache) (key : DpdKey) (entry : DpdEntry) :
    (cache.put key entry).keys = insert key cache.keys := by
  ext other
  rw [keys, Set.mem_ofPred_eq, put_map, Set.mem_insert_iff]
  by_cases h : other = key
  · simp [h]
  · simp [h, keys]

end DpdCache

namespace CacheInUse

variable {window : Nat} {nextTick : Int} {s : CacheInUse}

/-- The checks accepted no longer ago than a window and a quarter. -/
def recent (window : Nat) (s : CacheInUse) : List Call :=
  s.history.calls.filter fun call =>
    call.result = .ok true ∧ s.now ≤ call.time + ((window + window / 4 : Nat) : Int)

/-- With a task, each entry is that of a recent check. -/
theorem Ticking.mem_recent (h : Ticking window nextTick s) {key : DpdKey}
    (hkey : key ∈ s.history.cache.keys) : key ∈ (s.recent window).map Call.key := by
  obtain ⟨entry, hentry⟩ := Option.isSome_iff_exists.mp hkey
  obtain ⟨call, hcall, rfl, hok, hrecent⟩ := h.recent hentry
  exact List.mem_map_of_mem (List.mem_filter.mpr ⟨hcall, by simpa using ⟨hok, hrecent⟩⟩)

/-- Without a task, there is an entry for each key that was checked. -/
structure Hoarding (s : CacheInUse) : Prop where
  task_eq : s.task = none
  keys_eq : ∀ key, key ∈ s.history.cache.keys ↔ key ∈ s.history.calls.map Call.key

/-- A check of a key leaves an entry for it, or finds one. -/
theorem Hoarding.check (h : Hoarding s) (key : DpdKey) (ttl : UInt8) :
    Hoarding (s.step (.check key ttl)) := by
  rcases s.check_cases key ttl with ⟨-, hrun⟩ | ⟨entry, result, hentry, -, hrun⟩
  · rw [hrun]
    refine ⟨h.task_eq, fun other => ?_⟩
    show other ∈ (s.history.cache.put key _).keys ↔ _
    rw [DpdCache.keys_put, Set.mem_insert_iff, h.keys_eq, List.map_append, List.mem_append,
      or_comm]
    simp
  · rw [hrun]
    refine ⟨h.task_eq, fun other => ?_⟩
    show other ∈ s.history.cache.keys ↔ _
    have hthere : key ∈ s.history.calls.map Call.key :=
      (h.keys_eq key).mp (Option.isSome_iff_exists.mpr ⟨entry, hentry⟩)
    rw [h.keys_eq, List.map_append, List.mem_append]
    constructor
    · exact .inl
    · rintro (hother | hother)
      · exact hother
      · obtain rfl : other = key := by simpa using hother
        exact hthere

/-- **One step without a task.** -/
theorem Hoarding.step (h : Hoarding s) (action : CacheAction) : Hoarding (s.step action) := by
  cases action with
  | check key ttl => exact h.check key ttl
  | tick =>
      show Hoarding s.tick
      rw [CacheInUse.tick, h.task_eq]
      exact h
  | pass instants =>
      show Hoarding (s.pass instants)
      rw [CacheInUse.pass, h.task_eq]
      exact ⟨rfl, h.keys_eq⟩

/-! ### Runs -/

/-- A new engine, on which eviction is started at once, after these actions. -/
def afterActions (config : SmfConfig) (localAddrs : List IpAddr) (start : Int)
    (actions : List CacheAction) : CacheInUse :=
  run CacheInUse.step (ofEngine (.new config localAddrs) start) actions

variable {config : SmfConfig}

theorem afterActions_ticking (h : 4 ≤ config.dpdWindowSecs) (localAddrs : List IpAddr)
    (start : Int) (actions : List CacheAction) :
    ∃ nextTick, Ticking (fromSecs config.dpdWindowSecs) nextTick
      (afterActions config localAddrs start actions) := by
  have hpos : 0 < fromSecs config.dpdWindowSecs := by
    rw [fromSecs]
    omega
  refine run_induction (P := fun _ s => ∃ nextTick,
    Ticking (fromSecs config.dpdWindowSecs) nextTick s) ⟨_, ofEngine_ticking h⟩ ?_ actions
  intro _ action ih
  obtain ⟨nextTick, ih⟩ := ih
  exact ih.step hpos action

theorem afterActions_hoarding (h : config.dpdWindowSecs < 4) (localAddrs : List IpAddr)
    (start : Int) (actions : List CacheAction) :
    Hoarding (afterActions config localAddrs start actions) := by
  refine run_induction (P := fun _ s => Hoarding s) ⟨?_, ?_⟩ (fun _ action ih => ih.step action)
    actions
  · exact (ofEngine_unattended h).task_eq
  · intro key
    simp [ofEngine, SmfEngine.new, DpdCache.new, DpdCache.keys]

/-- **How large the cache gets**, over any run: with a window of four seconds or more, it has no
more entries than checks were accepted in the last window and a quarter; with a smaller one, as
many as different identifiers were ever checked. -/
theorem cache_size (config : SmfConfig) (localAddrs : List IpAddr) (start : Int)
    (actions : List CacheAction) :
    let s := afterActions config localAddrs start actions
    (s.history.cache.IsEmpty ↔ s.history.cache.len = 0)
      ∧ (4 ≤ config.dpdWindowSecs →
        s.history.cache.len ≤ (s.recent (fromSecs config.dpdWindowSecs)).length)
      ∧ (config.dpdWindowSecs < 4 →
        s.history.cache.len = (s.history.calls.map Call.key).dedup.length) := by
  intro s
  by_cases hlong : 4 ≤ config.dpdWindowSecs
  · obtain ⟨nextTick, hticking⟩ : ∃ nextTick, Ticking (fromSecs config.dpdWindowSecs) nextTick s :=
      afterActions_ticking hlong localAddrs start actions
    obtain ⟨hfinite, hle⟩ := DpdCache.len_le_length fun key hkey => hticking.mem_recent hkey
    rw [List.length_map] at hle
    exact ⟨DpdCache.isEmpty_iff hfinite, fun _ => hle,
      fun hshort => absurd hlong (Nat.not_le_of_lt hshort)⟩
  · have hhoarding : Hoarding s :=
      afterActions_hoarding (Nat.lt_of_not_le hlong) localAddrs start actions
    have hkeys : s.history.cache.keys
        = ((s.history.calls.map Call.key).toFinset : Set DpdKey) := by
      ext key
      rw [hhoarding.keys_eq, Finset.mem_coe, List.mem_toFinset]
    have hfinite : s.history.cache.keys.Finite := hkeys ▸ Finset.finite_toSet _
    refine ⟨DpdCache.isEmpty_iff hfinite, fun h => absurd h hlong, fun _ => ?_⟩
    rw [DpdCache.len, hkeys, Set.ncard_coe_finset, List.card_toFinset]

end CacheInUse

end DhcpRelay.Smf
