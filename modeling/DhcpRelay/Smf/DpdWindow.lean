import DhcpRelay.Library.Runs
import DhcpRelay.Smf.Dpd

/-!
# DhcpRelay.Smf.DpdWindow

**Window safety over whole runs.** A run is any sequence of checks and evictions on an
empty cache, stamped with a clock that does not go back. The state of a run is the
cache together with the record of all checks made so far.

The invariant ties the two together. An accepted check is *remembered* by an entry at
least as large and at least as young, unless its window is over; and every entry is
that of an accepted check. What a check is answered then follows from the entry it
meets.
-/

namespace DhcpRelay.Smf

open DhcpRelay.Library

/-- One operation on the cache, with the time at which it is carried out. -/
inductive Op
  | check (key : DpdKey) (ttl : UInt8) (now : Int)
  | evict (now : Int)

def Op.time : Op → Int
  | .check _ _ now => now
  | .evict now => now

/-- The record of one check. -/
structure Call where
  key : DpdKey
  ttl : UInt8
  time : Int
  result : RelayResult Bool

def Call.Accepted (call : Call) : Prop := call.result = .ok true

/-- A cache and the checks made on it, in order. -/
structure History where
  cache : DpdCache
  calls : List Call

namespace History

/-- Carry out one operation. -/
def step (h : History) : Op → History
  | .check key ttl now =>
    let (result, cache) := h.cache.checkAndInsert key ttl now
    { cache := cache
      calls := h.calls ++ [{ key := key, ttl := ttl, time := now, result := result }] }
  | .evict now => { h with cache := h.cache.evictExpired now }

/-- The run of a sequence of operations on a new cache. -/
def ofOps (window : Nat) (ops : List Op) : History :=
  run step { cache := .new window, calls := [] } ops

/-- The call is remembered: an entry is at least as large and as young. -/
def Remembers (cache : DpdCache) (call : Call) : Prop :=
  ∃ entry, cache.map call.key = some entry ∧ call.ttl ≤ entry.ttl ∧ call.time ≤ entry.firstSeen

/-- The two calls were not accepted within one window, or the second had a larger TTL. -/
def Spaced (window : Nat) (earlier later : Call) : Prop :=
  earlier.key = later.key → earlier.Accepted → later.Accepted →
    earlier.ttl < later.ttl ∨ earlier.time + window ≤ later.time

/-- What an answer says about the calls before it. -/
def Justified (before : List Call) (call : Call) : Prop :=
  (call.result = .ok false →
      ∃ earlier ∈ before, earlier.key = call.key ∧ earlier.ttl = call.ttl ∧ earlier.Accepted)
    ∧ ∀ e, call.result = .error e → e = .dpdStalePacket
      ∧ ∃ earlier ∈ before, earlier.key = call.key ∧ call.ttl < earlier.ttl ∧ earlier.Accepted

/-- So a call is accepted if no call for its key was accepted before. -/
theorem Justified.accepted {before : List Call} {call : Call} (h : Justified before call)
    (hnone : ∀ earlier ∈ before, earlier.key = call.key → ¬ earlier.Accepted) :
    call.Accepted := by
  rw [Call.Accepted]
  rcases hresult : call.result with e | answer
  · obtain ⟨-, earlier, hearlier, hkey, -, hok⟩ := h.2 e hresult
    exact absurd hok (hnone earlier hearlier hkey)
  · cases answer with
    | false =>
        obtain ⟨earlier, hearlier, hkey, -, hok⟩ := h.1 hresult
        exact absurd hok (hnone earlier hearlier hkey)
    | true => rfl

/-- **The invariant** of a history, at time `now`. -/
structure Inv (window : Nat) (now : Int) (h : History) : Prop where
  window_eq : h.cache.window = window
  past : ∀ call ∈ h.calls, call.time ≤ now
  accepted : ∀ call ∈ h.calls, call.Accepted →
    Remembers h.cache call ∨ call.time + window ≤ now
  entries : ∀ key entry, h.cache.map key = some entry →
    ∃ call ∈ h.calls, call.key = key ∧ call.ttl = entry.ttl ∧ call.Accepted
  spaced : h.calls.Pairwise (Spaced window)
  justified : ∀ before call, before ++ [call] <+: h.calls → Justified before call

variable {window : Nat} {now now' : Int} {h : History}

/-- Time passes. -/
theorem Inv.later (hinv : Inv window now h) (hle : now ≤ now') : Inv window now' h where
  window_eq := hinv.window_eq
  past := fun call hcall => (hinv.past call hcall).trans hle
  accepted := fun call hcall hok => (hinv.accepted call hcall hok).imp_right fun h => h.trans hle
  entries := hinv.entries
  spaced := hinv.spaced
  justified := hinv.justified

/-- Eviction keeps the invariant: what it forgets is beyond its window. -/
theorem Inv.evict (hinv : Inv window now h) : Inv window now (h.step (.evict now)) where
  window_eq := hinv.window_eq
  past := hinv.past
  accepted := by
    intro call hcall hok
    rcases hinv.accepted call hcall hok with ⟨entry, hentry, httl, hseen⟩ | hover
    · by_cases hage : now < entry.firstSeen + h.cache.window
      · exact .inl ⟨entry, DpdCache.evictExpired_map.mpr ⟨hentry, hage⟩, httl, hseen⟩
      · rw [hinv.window_eq] at hage
        exact .inr (by omega)
    · exact .inr hover
  entries := fun key entry hentry =>
    hinv.entries key entry (DpdCache.evictExpired_map.mp hentry).1
  spaced := hinv.spaced
  justified := hinv.justified

/-- A refused call is recorded and changes nothing. -/
theorem Inv.refuse (hinv : Inv window now h) {call : Call} (htime : call.time = now)
    (hrefused : ¬ call.Accepted) (hjustified : Justified h.calls call) :
    Inv window now { h with calls := h.calls ++ [call] } where
  window_eq := hinv.window_eq
  past := by
    intro c hc
    rcases List.mem_append.mp hc with hc | hc
    · exact hinv.past c hc
    · obtain rfl := List.mem_singleton.mp hc
      exact htime.le
  accepted := by
    intro c hc hok
    rcases List.mem_append.mp hc with hc | hc
    · exact hinv.accepted c hc hok
    · obtain rfl := List.mem_singleton.mp hc
      exact absurd hok hrefused
  entries := by
    intro key entry hentry
    obtain ⟨c, hc, hfacts⟩ := hinv.entries key entry hentry
    exact ⟨c, List.mem_append_left _ hc, hfacts⟩
  spaced := by
    refine List.pairwise_append.mpr ⟨hinv.spaced, List.pairwise_singleton _ _, ?_⟩
    intro earlier _ later hlater _ _ hok
    obtain rfl := List.mem_singleton.mp hlater
    exact absurd hok hrefused
  justified := forall_prefix_concat_iff.mpr ⟨hinv.justified, hjustified⟩

/-- An accepted call is recorded and remembered. What the old entry for its key
remembered has a smaller TTL. -/
theorem Inv.accept (hinv : Inv window now h) {key : DpdKey} {ttl : UInt8}
    (hfresh : h.cache.Fresh key ttl) :
    Inv window now {
      cache := h.cache.put key { firstSeen := now, ttl := ttl }
      calls := h.calls ++ [{ key := key, ttl := ttl, time := now, result := .ok true }] } where
  window_eq := hinv.window_eq
  past := by
    intro c hc
    rcases List.mem_append.mp hc with hc | hc
    · exact hinv.past c hc
    · obtain rfl := List.mem_singleton.mp hc
      exact le_rfl
  accepted := by
    intro c hc hok
    rcases List.mem_append.mp hc with hold | hc
    · rcases hinv.accepted c hold hok with ⟨entry, hentry, httl, hseen⟩ | hover
      · left
        by_cases hkey : c.key = key
        · -- the entry that remembered the call is replaced by a larger and younger one
          subst hkey
          have hlarger : c.ttl ≤ ttl := httl.trans (hfresh entry hentry).le
          exact ⟨{ firstSeen := now, ttl := ttl }, by rw [DpdCache.put_map, if_pos rfl], hlarger,
            hinv.past c hold⟩
        · exact ⟨entry, by rw [DpdCache.put_map, if_neg hkey, hentry], httl, hseen⟩
      · exact .inr hover
    · obtain rfl := List.mem_singleton.mp hc
      exact .inl ⟨{ firstSeen := now, ttl := ttl }, by rw [DpdCache.put_map, if_pos rfl],
        le_rfl, le_rfl⟩
  entries := by
    intro k entry hentry
    rw [DpdCache.put_map] at hentry
    split at hentry
    · next hk =>
        obtain rfl : _ = entry := Option.some.inj hentry
        exact ⟨_, List.mem_append_right _ (List.mem_singleton_self _), hk.symm, rfl, rfl⟩
    · obtain ⟨c, hc, hfacts⟩ := hinv.entries k entry hentry
      exact ⟨c, List.mem_append_left _ hc, hfacts⟩
  spaced := by
    refine List.pairwise_append.mpr ⟨hinv.spaced, List.pairwise_singleton _ _, ?_⟩
    intro earlier hearlier later hlater hkey hok _
    obtain rfl := List.mem_singleton.mp hlater
    -- the earlier call is remembered by the entry found, or its window is over
    rcases hinv.accepted earlier hearlier hok with ⟨entry, hentry, httl, -⟩ | hover
    · have hsame : earlier.key = key := hkey
      rw [hsame] at hentry
      exact .inl (httl.trans_lt (hfresh entry hentry))
    · exact .inr hover
  justified := forall_prefix_concat_iff.mpr
    ⟨hinv.justified, fun h => by simp at h, fun e h => by simp at h⟩

/-- **One operation keeps the invariant.** -/
theorem Inv.step {op : Op} (hinv : Inv window now h) (hle : now ≤ op.time) :
    Inv window op.time (h.step op) := by
  have hlater := hinv.later hle
  cases op with
  | evict now => exact hlater.evict
  | check key ttl now =>
      rcases h.cache.checkAndInsert_cases key ttl now with
        ⟨hfresh, hrun⟩ | ⟨entry, hentry, httl, hrun⟩ | ⟨entry, hentry, httl, hrun⟩
      · rw [History.step, hrun]
        exact hlater.accept hfresh
      · rw [History.step, hrun]
        obtain ⟨c, hc, hkey, hcttl, hok⟩ := hlater.entries key entry hentry
        refine hlater.refuse rfl (by simp [Call.Accepted]) ⟨fun _ => ?_, fun e h => by simp at h⟩
        exact ⟨c, hc, hkey, hcttl.trans httl, hok⟩
      · rw [History.step, hrun]
        obtain ⟨c, hc, hkey, hcttl, hok⟩ := hlater.entries key entry hentry
        refine hlater.refuse rfl (by simp [Call.Accepted]) ⟨fun h => by simp at h, fun e h => ?_⟩
        obtain rfl : _ = e := Except.error.inj h
        exact ⟨rfl, c, hc, hkey, hcttl ▸ httl, hok⟩

/-- **Every run keeps the invariant**, on a clock that does not go back. -/
theorem ofOps_inv (window : Nat) (ops : List Op) :
    ops.Pairwise (fun a b => a.time ≤ b.time) →
      ∀ now, (∀ op ∈ ops, op.time ≤ now) → Inv window now (ofOps window ops) := by
  refine run_induction (P := fun ops h => ops.Pairwise (fun a b => a.time ≤ b.time) →
    ∀ now, (∀ op ∈ ops, op.time ≤ now) → Inv window now h) ?_ ?_ ops
  · intro _ now _
    exact ⟨rfl, by simp, by simp, by simp [DpdCache.new], .nil, by simp⟩
  · intro ops op ih hclock now hnow
    obtain ⟨hclock, -, hlast⟩ := List.pairwise_append.mp hclock
    have hinv := ih hclock op.time fun earlier h => hlast earlier h op (List.mem_singleton_self op)
    exact (hinv.step le_rfl).later (hnow op (List.mem_append_right _ (List.mem_singleton_self op)))

/-! ### Other keys -/

/-- Whether an operation matters for `key`. -/
def concerns (key : DpdKey) : Op → Bool
  | .check k _ _ => k = key
  | .evict _ => true

/-- The second history is what the first one says about `key`. -/
def AgreesOn (key : DpdKey) (h h' : History) : Prop :=
  h.cache.map key = h'.cache.map key ∧ h.cache.window = h'.cache.window
    ∧ h.calls.filter (·.key = key) = h'.calls

/-- The answers for a key depend on the operations that concern it alone. -/
theorem ofOps_filter (window : Nat) (key : DpdKey) (ops : List Op) :
    AgreesOn key (ofOps window ops) (ofOps window (ops.filter (concerns key))) := by
  refine run_filter (R := AgreesOn key) ?_ ?_ ⟨rfl, rfl, rfl⟩ ops
  · intro h h' op hop ⟨hmap, hwindow, hcalls⟩
    cases op with
    | check k ttl now =>
        obtain rfl : k = key := by simpa [concerns] using hop
        obtain ⟨hresult, hmap'⟩ := DpdCache.checkAndInsert_congr hmap ttl now
        refine ⟨hmap', ?_, ?_⟩
        · rw [step, step, DpdCache.checkAndInsert_window, DpdCache.checkAndInsert_window, hwindow]
        · simp [step, hresult, hcalls]
    | evict now =>
        refine ⟨?_, hwindow, hcalls⟩
        simp only [step, DpdCache.evictExpired, hmap, hwindow]
  · intro h h' op hop ⟨hmap, hwindow, hcalls⟩
    cases op with
    | check k ttl now =>
        have hne : key ≠ k := by simpa [concerns, eq_comm] using hop
        refine ⟨?_, ?_, ?_⟩
        · rw [step, DpdCache.checkAndInsert_map_of_ne hne, hmap]
        · rw [step, DpdCache.checkAndInsert_window, hwindow]
        · simp [step, hcalls, Ne.symm hne]
    | evict now => simp [concerns] at hop

end History

/-- **Window safety.** On a clock that does not go back, two accepted checks of one key
are a window apart or have growing TTLs; a refusal is justified by an accepted check
before it; and the checks of a key are answered as if there were no checks of others. -/
theorem window_safety (window : Nat) (ops : List Op)
    (hclock : ops.Pairwise (fun a b => a.time ≤ b.time)) :
    let calls := (History.ofOps window ops).calls
    calls.Pairwise (History.Spaced window)
      ∧ (∀ before call, before ++ [call] <+: calls → History.Justified before call)
      ∧ ∀ key, calls.filter (·.key = key)
          = (History.ofOps window (ops.filter (History.concerns key))).calls := by
  intro calls
  have hinv : ∃ now, History.Inv window now (History.ofOps window ops) := by
    rcases ops.eq_nil_or_concat with rfl | ⟨before, last, hops⟩
    · exact ⟨0, History.ofOps_inv window [] hclock 0 (by simp)⟩
    · rw [List.concat_eq_append] at hops
      subst hops
      refine ⟨last.time, History.ofOps_inv window _ hclock last.time ?_⟩
      intro op hop
      rcases List.mem_append.mp hop with hop | hop
      · exact (List.pairwise_append.mp hclock).2.2 op hop last (List.mem_singleton_self last)
      · obtain rfl := List.mem_singleton.mp hop
        exact le_rfl
  obtain ⟨now, hinv⟩ := hinv
  exact ⟨hinv.spaced, hinv.justified, fun key => (History.ofOps_filter window key ops).2.2⟩

def sampleKey : DpdKey where
  srcAddr := .v4 ⟨10, 0, 0, 1⟩
  dstAddr := .v4 ⟨224, 0, 0, 1⟩
  packetId := 42

/-- A packet seen again inside its window, and once more after it. -/
def sampleOps : List Op :=
  [.check sampleKey 64 0, .check sampleKey 64 3, .evict 10, .check sampleKey 64 11]

theorem sampleOps_spaced : (History.ofOps 10 sampleOps).calls.Pairwise (History.Spaced 10) :=
  (window_safety 10 sampleOps (by simp [sampleOps, Op.time])).1

end DhcpRelay.Smf
