import DhcpRelay.Config
import Mathlib.Logic.Function.Basic

/-!
# DhcpRelay.Smf.Dpd

The cache of duplicate packet detection (`smf/dpd.rs`). The map is a partial function
from keys to entries, and an `Instant` is an integer, so that subtracting a duration
from it never underflows.

`check_and_insert` touches the map twice: once to look the key up and update its
entry (`tryUpdate`, under the guard that `get_mut` returns), and, if there was no
entry, once more to insert one (`insertNew`). `checkAndInsert` is the two of them in
a row; `Smf.DpdConcurrent` takes them apart.
-/

namespace DhcpRelay.Smf

open DhcpRelay.Library

/-- Key for a DPD cache entry — uniquely identifies a packet. -/
structure DpdKey where
  srcAddr : IpAddr
  dstAddr : IpAddr
  packetId : UInt64
  deriving DecidableEq

/-- An entry in the DPD cache recording when a packet was first seen and its TTL. -/
structure DpdEntry where
  firstSeen : Int
  ttl : UInt8
  deriving DecidableEq

/-- Duplicate Packet Detection cache with TTL-based DoS protection. -/
structure DpdCache where
  map : DpdKey → Option DpdEntry
  window : Nat

namespace DpdCache

/-- Create a new DPD cache with the given time window. -/
def new (window : Nat) : DpdCache where
  map := fun _ => none
  window := window

/-- Store an entry. -/
def put (cache : DpdCache) (key : DpdKey) (entry : DpdEntry) : DpdCache :=
  { cache with map := Function.update cache.map key (some entry) }

/-- The part of `check_and_insert` under the guard of `get_mut`: the result, if there
is an entry for the key. -/
def tryUpdate (cache : DpdCache) (key : DpdKey) (ttl : UInt8) (now : Int) :
    Option (RelayResult Bool) × DpdCache :=
  match cache.map key with
  | some entry =>
    -- a larger TTL takes the entry over and starts its window anew
    if entry.ttl < ttl then (some (.ok true), cache.put key { firstSeen := now, ttl := ttl })
    else if entry.ttl = ttl then (some (.ok false), cache)
    else (some (.error .dpdStalePacket), cache)
  | none => (none, cache)

/-- The rest of `check_and_insert`, when there was no entry. -/
def insertNew (cache : DpdCache) (key : DpdKey) (ttl : UInt8) (now : Int) : DpdCache :=
  cache.put key { firstSeen := now, ttl := ttl }

/-- Check if a packet with the given key and TTL is a duplicate. -/
def checkAndInsert (cache : DpdCache) (key : DpdKey) (ttl : UInt8) (now : Int) :
    RelayResult Bool × DpdCache :=
  match cache.tryUpdate key ttl now with
  | (some result, cache) => (result, cache)
  | (none, cache) => (.ok true, cache.insertNew key ttl now)

/-- Remove entries older than the configured time window. -/
def evictExpired (cache : DpdCache) (now : Int) : DpdCache :=
  let cutoff := now - cache.window
  { cache with map := fun key => (cache.map key).filter fun entry => entry.firstSeen > cutoff }

/-! ### What the operations do -/

variable {cache : DpdCache} {key : DpdKey} {ttl : UInt8} {now : Int}

/-- There is no entry for the key, or one with a smaller TTL. -/
def Fresh (cache : DpdCache) (key : DpdKey) (ttl : UInt8) : Prop :=
  ∀ entry ∈ cache.map key, entry.ttl < ttl

theorem put_map (entry : DpdEntry) (other : DpdKey) :
    (cache.put key entry).map other = if other = key then some entry else cache.map other := by
  exact Function.update_apply cache.map key (some entry) other

theorem tryUpdate_of_none (h : cache.map key = none) :
    cache.tryUpdate key ttl now = (none, cache) := by
  rw [tryUpdate, h]

theorem tryUpdate_of_lt {entry : DpdEntry} (h : cache.map key = some entry)
    (hlt : entry.ttl < ttl) :
    cache.tryUpdate key ttl now
      = (some (.ok true), cache.put key { firstSeen := now, ttl := ttl }) := by
  rw [tryUpdate, h]
  exact if_pos hlt

theorem tryUpdate_of_eq {entry : DpdEntry} (h : cache.map key = some entry) :
    cache.tryUpdate key entry.ttl now = (some (.ok false), cache) := by
  rw [tryUpdate, h]
  simp

theorem tryUpdate_of_gt {entry : DpdEntry} (h : cache.map key = some entry)
    (hgt : ttl < entry.ttl) :
    cache.tryUpdate key ttl now = (some (.error .dpdStalePacket), cache) := by
  rw [tryUpdate, h]
  have hlt : ¬ entry.ttl < ttl := not_lt_of_gt hgt
  have hne : ¬ entry.ttl = ttl := ne_of_gt hgt
  simp [hlt, hne]

/-- A fresh packet is accepted and recorded. -/
theorem checkAndInsert_of_fresh (h : cache.Fresh key ttl) :
    cache.checkAndInsert key ttl now
      = (.ok true, cache.put key { firstSeen := now, ttl := ttl }) := by
  cases hentry : cache.map key with
  | none =>
      rw [checkAndInsert, tryUpdate_of_none hentry]
      rfl
  | some entry => rw [checkAndInsert, tryUpdate_of_lt hentry (h entry hentry)]

/-- Where an entry has the packet's own TTL, the packet is a duplicate. -/
theorem checkAndInsert_of_eq {entry : DpdEntry} (h : cache.map key = some entry) :
    cache.checkAndInsert key entry.ttl now = (.ok false, cache) := by
  rw [checkAndInsert, tryUpdate_of_eq h]

/-- Where an entry has a larger TTL, the packet is stale. -/
theorem checkAndInsert_of_gt {entry : DpdEntry} (h : cache.map key = some entry)
    (hgt : ttl < entry.ttl) :
    cache.checkAndInsert key ttl now = (.error .dpdStalePacket, cache) := by
  rw [checkAndInsert, tryUpdate_of_gt h hgt]

/-- **What a call can do**: accept and record, or refuse because of an entry that is
there and leave the cache alone. -/
theorem checkAndInsert_cases (cache : DpdCache) (key : DpdKey) (ttl : UInt8) (now : Int) :
    (cache.Fresh key ttl ∧ cache.checkAndInsert key ttl now
        = (.ok true, cache.put key { firstSeen := now, ttl := ttl }))
      ∨ (∃ entry, cache.map key = some entry ∧ entry.ttl = ttl
          ∧ cache.checkAndInsert key ttl now = (.ok false, cache))
      ∨ (∃ entry, cache.map key = some entry ∧ ttl < entry.ttl
          ∧ cache.checkAndInsert key ttl now = (.error .dpdStalePacket, cache)) := by
  cases hentry : cache.map key with
  | none =>
      have hfresh : cache.Fresh key ttl := by simp [Fresh, hentry]
      exact .inl ⟨hfresh, checkAndInsert_of_fresh hfresh⟩
  | some entry =>
      rcases lt_trichotomy entry.ttl ttl with hlt | rfl | hgt
      · have hfresh : cache.Fresh key ttl := by simp [Fresh, hentry, hlt]
        exact .inl ⟨hfresh, checkAndInsert_of_fresh hfresh⟩
      · exact .inr (.inl ⟨entry, rfl, rfl, checkAndInsert_of_eq hentry⟩)
      · exact .inr (.inr ⟨entry, rfl, hgt, checkAndInsert_of_gt hentry hgt⟩)

theorem checkAndInsert_window (cache : DpdCache) (key : DpdKey) (ttl : UInt8) (now : Int) :
    (cache.checkAndInsert key ttl now).2.window = cache.window := by
  rcases cache.checkAndInsert_cases key ttl now with
    ⟨-, hrun⟩ | ⟨_, -, -, hrun⟩ | ⟨_, -, -, hrun⟩
  · rw [hrun, put]
  · rw [hrun]
  · rw [hrun]

/-- A call leaves the entries of other keys alone. -/
theorem checkAndInsert_map_of_ne {other : DpdKey} (hne : other ≠ key) :
    (cache.checkAndInsert key ttl now).2.map other = cache.map other := by
  rcases cache.checkAndInsert_cases key ttl now with
    ⟨-, hrun⟩ | ⟨_, -, -, hrun⟩ | ⟨_, -, -, hrun⟩
  · rw [hrun, put_map, if_neg hne]
  · rw [hrun]
  · rw [hrun]

/-- A call sees nothing but the entry of its key. -/
theorem checkAndInsert_congr {cache' : DpdCache} (h : cache.map key = cache'.map key)
    (ttl : UInt8) (now : Int) :
    (cache.checkAndInsert key ttl now).1 = (cache'.checkAndInsert key ttl now).1
      ∧ (cache.checkAndInsert key ttl now).2.map key
        = (cache'.checkAndInsert key ttl now).2.map key := by
  rcases cache.checkAndInsert_cases key ttl now with
    ⟨hfresh, hrun⟩ | ⟨entry, hentry, rfl, hrun⟩ | ⟨entry, hentry, hgt, hrun⟩
  · have hfresh' : cache'.Fresh key ttl := by rwa [Fresh, ← h]
    rw [hrun, checkAndInsert_of_fresh hfresh', put_map, put_map, if_pos rfl, if_pos rfl]
    exact ⟨rfl, rfl⟩
  · rw [hrun, checkAndInsert_of_eq (h.symm.trans hentry)]
    exact ⟨rfl, h⟩
  · rw [hrun, checkAndInsert_of_gt (h.symm.trans hentry) hgt]
    exact ⟨rfl, h⟩

/-- An entry survives eviction exactly when it is younger than the window. -/
theorem evictExpired_map {entry : DpdEntry} :
    (cache.evictExpired now).map key = some entry ↔
      cache.map key = some entry ∧ now < entry.firstSeen + cache.window := by
  simp only [evictExpired, Option.filter_eq_some_iff, decide_eq_true_eq]
  constructor
  · intro hkept
    obtain ⟨h, hage⟩ := hkept
    exact ⟨h, by omega⟩
  · intro hyoung
    obtain ⟨h, hage⟩ := hyoung
    exact ⟨h, by omega⟩

end DpdCache

end DhcpRelay.Smf
