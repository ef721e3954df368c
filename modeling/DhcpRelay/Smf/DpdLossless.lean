import DhcpRelay.Smf.DpdConcurrent
import Mathlib.Order.Lattice.Nat

/-!
# DhcpRelay.Smf.DpdLossless

**Callers, evictions and clears at the same time.** The steps of any number of callers of
`check_and_insert` come in any order, and between any two of them the eviction task or
`clear` may empty the cache, in part or as a whole.

A packet may then be let through more than once; what cannot happen is that it is not let
through at all. A caller is only ever refused because of another one that was told that this
very packet is new, and whose TTL is no smaller; and each caller has its answer after two turns
of its own, whatever the others do.
-/

namespace DhcpRelay.Smf

open DhcpRelay.Library

/-- Clear all entries from the cache. -/
def DpdCache.clear (cache : DpdCache) : DpdCache :=
  { cache with map := fun _ => none }

/-- What may happen next to a shared cache. -/
inductive SharedAction (ι : Type)
  | turn (i : ι)
  | evict (now : Int)
  | clear
  deriving DecidableEq

/-- How many turns a caller needs at most until it has its answer. -/
def Phase.left : Phase → Nat
  | .start => 2
  | .missed => 1
  | .done _ => 0

theorem Phase.done_of_left {phase : Phase} (h : phase.left = 0) :
    ∃ result, phase = .done result := by
  cases phase with
  | start => simp [Phase.left] at h
  | missed => simp [Phase.left] at h
  | done result => exact ⟨result, rfl⟩

namespace Shared

variable {ι : Type}

/-- A caller that is not told that its packet is new is told why: another caller, with the same
key, was told so with the same TTL, or with a larger one. -/
def Excused (callers : Callers ι) (s : Shared ι) (i : ι) (result : RelayResult Bool) : Prop :=
  result = .ok true
    ∨ (result = .ok false ∧ ∃ j, s.Accepted j ∧ callers.key j = callers.key i
        ∧ callers.ttl j = callers.ttl i)
    ∨ (result = .error .dpdStalePacket ∧ ∃ j, s.Accepted j ∧ callers.key j = callers.key i
        ∧ callers.ttl i < callers.ttl j)

/-- **The invariant.** Every entry is that of a caller who was told that its packet is new, and
whoever has an answer is excused. -/
structure Lossless (callers : Callers ι) (s : Shared ι) : Prop where
  owned : s.Owned callers
  excused : ∀ i result, s.phase i = .done result → s.Excused callers i result

variable {callers : Callers ι} {s s' : Shared ι} {i : ι} {result : RelayResult Bool}

/-- Excuses do not expire. -/
theorem Excused.mono (h : s.Excused callers i result) (hle : ∀ j, s.Accepted j → s'.Accepted j) :
    s'.Excused callers i result := by
  rcases h with rfl | ⟨rfl, j, hj, hfacts⟩ | ⟨rfl, j, hj, hfacts⟩
  · exact .inl rfl
  · exact .inr (.inl ⟨rfl, j, hle j hj, hfacts⟩)
  · exact .inr (.inr ⟨rfl, j, hle j hj, hfacts⟩)

/-- What is taken out of the cache is not missed. -/
theorem Lossless.forget (h : s.Lossless callers) {cache : DpdCache}
    (hsub : ∀ key, ∀ entry ∈ cache.map key, entry ∈ s.cache.map key) :
    ({ s with cache := cache } : Shared ι).Lossless callers where
  owned := fun key entry hentry => h.owned key entry (hsub key entry hentry)
  excused := h.excused

/-- Of the callers with an answer for one key, one with the largest TTL was told that its
packet is new. -/
theorem Lossless.exists_accepted {s : Shared ι} (h : s.Lossless callers)
    (hdone : s.phase i = .done result) :
    ∃ j, s.Accepted j ∧ callers.key j = callers.key i
      ∧ ∀ k result', callers.key k = callers.key i → s.phase k = .done result' →
        callers.ttl k ≤ callers.ttl j := by
  have hbound : ∀ k result', s.phase k = .done result' →
      ∃ j, s.Accepted j ∧ callers.key j = callers.key k ∧ callers.ttl k ≤ callers.ttl j := by
    intro k result' hk
    rcases h.excused k result' hk with rfl | ⟨-, j, hj, hkey, httl⟩ | ⟨-, j, hj, hkey, httl⟩
    · exact ⟨k, hk, rfl, le_rfl⟩
    · exact ⟨j, hj, hkey, httl.ge⟩
    · exact ⟨j, hj, hkey, httl.le⟩
  obtain ⟨first, hfirst, hkey, -⟩ := hbound i result hdone
  let ttls : Set Nat := {n | ∃ j, s.Accepted j ∧ callers.key j = callers.key i
    ∧ (callers.ttl j).toNat = n}
  have hbdd : BddAbove ttls := ⟨255, fun n ⟨j, _, _, hn⟩ =>
    hn ▸ Nat.le_of_lt_succ (callers.ttl j).toNat_lt⟩
  have hnonempty : ttls.Nonempty := ⟨_, first, hfirst, hkey, rfl⟩
  obtain ⟨j, hj, hjkey, hmax⟩ := Nat.sSup_mem hnonempty hbdd
  refine ⟨j, hj, hjkey, fun k result' hkkey hk => ?_⟩
  obtain ⟨j', hj', hkey', httl⟩ := hbound k result' hk
  have hle : (callers.ttl j').toNat ≤ (callers.ttl j).toNat :=
    hmax ▸ le_csSup hbdd ⟨j', hj', hkey'.trans hkkey, rfl⟩
  exact httl.trans (UInt8.le_iff_toNat_le.mpr hle)

variable [DecidableEq ι]

/-- Carry out an action. -/
def act (callers : Callers ι) (s : Shared ι) : SharedAction ι → Shared ι
  | .turn i => s.step callers i
  | .evict now => { s with cache := s.cache.evictExpired now }
  | .clear => { s with cache := s.cache.clear }

/-- The phase of the callers whose turn it is not. -/
theorem step_phase_of_ne {j : ι} (hne : j ≠ i) : (s.step callers i).phase j = s.phase j := by
  rcases s.step_cases callers i with
    ⟨-, -, hstep⟩ | ⟨-, hstep⟩ | ⟨phase, -, -, hstep⟩ | ⟨_, -, hstep⟩
  · rw [hstep, accept, enter_phase, if_neg hne]
  · rw [hstep, accept, enter_phase, if_neg hne]
  · rw [hstep, enter_phase, if_neg hne]
  · rw [hstep]

/-- **What a lookup answers**: it accepts, or finds nothing, or refuses because of the entry
that it finds. -/
theorem step_of_start (hstart : s.phase i = .start) :
    s.step callers i = s.accept callers i
      ∨ s.step callers i = s.enter i .missed
      ∨ ∃ entry ∈ s.cache.map (callers.key i),
        (entry.ttl = callers.ttl i ∧ s.step callers i = s.enter i (.done (.ok false)))
          ∨ (callers.ttl i < entry.ttl
            ∧ s.step callers i = s.enter i (.done (.error .dpdStalePacket))) := by
  cases hentry : s.cache.map (callers.key i) with
  | none =>
      refine .inr (.inl ?_)
      rw [step, hstart]
      simp only [DpdCache.tryUpdate_of_none hentry]
  | some entry =>
      rcases lt_trichotomy entry.ttl (callers.ttl i) with hlt | heq | hgt
      · refine .inl ?_
        rw [step, hstart]
        simp only [DpdCache.tryUpdate_of_lt hentry hlt]
        rfl
      · refine .inr (.inr ⟨entry, rfl, .inl ⟨heq, ?_⟩⟩)
        rw [step, hstart]
        simp only [← heq, DpdCache.tryUpdate_of_eq hentry]
      · refine .inr (.inr ⟨entry, rfl, .inr ⟨hgt, ?_⟩⟩)
        rw [step, hstart]
        simp only [DpdCache.tryUpdate_of_gt hentry hgt]

/-- The caller whose turn it was is excused by the owner of the entry that it found. -/
theorem Lossless.excused_turn (h : s.Lossless callers)
    (hdone : (s.step callers i).phase i = .done result) :
    (s.step callers i).Excused callers i result := by
  have hle : ∀ j, s.Accepted j → (s.step callers i).Accepted j := fun j hj => accepted_step hj
  cases hphase : s.phase i with
  | done result' =>
      have hidle : s.step callers i = s := by rw [step, hphase]
      rw [hidle] at hdone ⊢
      exact h.excused i result hdone
  | missed =>
      have haccept : s.step callers i = s.accept callers i := by rw [step, hphase]; rfl
      rw [haccept, accept, enter_phase, if_pos rfl] at hdone
      exact .inl (Phase.done.inj hdone).symm
  | start =>
      rcases step_of_start hphase with
        hstep | hstep | ⟨entry, hentry, ⟨httl, hstep⟩ | ⟨httl, hstep⟩⟩
      · rw [hstep, accept, enter_phase, if_pos rfl] at hdone
        exact .inl (Phase.done.inj hdone).symm
      · rw [hstep, enter_phase, if_pos rfl] at hdone
        simp at hdone
      · obtain ⟨j, hj, hkey, hown⟩ := h.owned _ entry hentry
        rw [hstep, enter_phase, if_pos rfl] at hdone
        exact .inr (.inl ⟨(Phase.done.inj hdone).symm, j, hle j hj, hkey, hown.trans httl⟩)
      · obtain ⟨j, hj, hkey, hown⟩ := h.owned _ entry hentry
        rw [hstep, enter_phase, if_pos rfl] at hdone
        exact .inr (.inr ⟨(Phase.done.inj hdone).symm, j, hle j hj, hkey, hown ▸ httl⟩)

/-- **One action keeps the invariant.** -/
theorem Lossless.act (h : s.Lossless callers) (action : SharedAction ι) :
    (s.act callers action).Lossless callers := by
  cases action with
  | turn i =>
      refine ⟨h.owned.step i, fun j result hdone => ?_⟩
      by_cases hji : j = i
      · subst hji
        exact h.excused_turn hdone
      · have hbefore : s.phase j = .done result := (step_phase_of_ne hji).symm.trans hdone
        exact (h.excused j result hbefore).mono fun k hk => accepted_step hk
  | evict now =>
      exact h.forget fun key entry hentry => (DpdCache.evictExpired_map.mp hentry).1
  | clear => exact h.forget fun key entry hentry => by simp [DpdCache.clear] at hentry

/-! ### Turns -/

theorem step_left (callers : Callers ι) (s : Shared ι) (i : ι) :
    ((s.step callers i).phase i).left ≤ (s.phase i).left - 1 := by
  cases hphase : s.phase i with
  | done result =>
      have hidle : s.step callers i = s := by rw [step, hphase]
      rw [hidle, hphase]
      exact Nat.zero_le _
  | missed =>
      have haccept : s.step callers i = s.accept callers i := by rw [step, hphase]; rfl
      rw [haccept, accept, enter_phase, if_pos rfl]
      exact Nat.zero_le _
  | start =>
      rcases step_of_start hphase with hstep | hstep | ⟨entry, -, ⟨-, hstep⟩ | ⟨-, hstep⟩⟩
      · rw [hstep, accept, enter_phase, if_pos rfl]
        exact Nat.zero_le _
      · rw [hstep, enter_phase, if_pos rfl]
        exact Nat.le_refl 1
      · rw [hstep, enter_phase, if_pos rfl]
        exact Nat.zero_le _
      · rw [hstep, enter_phase, if_pos rfl]
        exact Nat.zero_le _

/-- **No caller waits for another**: each turn brings it nearer to its answer. -/
theorem left_run (callers : Callers ι) (window : Nat) (actions : List (SharedAction ι)) (i : ι) :
    ((run (act callers) (.init window) actions).phase i).left
      ≤ 2 - actions.count (.turn i) := by
  refine run_induction (P := fun actions (s : Shared ι) =>
    (s.phase i).left ≤ 2 - actions.count (.turn i)) ?_ ?_ actions
  · exact Nat.le_refl 2
  · intro actions action ih
    rw [List.count_append]
    cases action with
    | turn j =>
        by_cases hij : i = j
        · subst hij
          have hstep := step_left callers (run (act callers) (.init window) actions) i
          rw [List.count_singleton_self]
          show ((step callers _ i).phase i).left ≤ _
          omega
        · have hother : [SharedAction.turn j].count (.turn i) = 0 := by
            simp [Ne.symm hij]
          show ((step callers _ j).phase i).left ≤ _
          rw [step_phase_of_ne hij, hother]
          exact ih
    | evict now => exact ih
    | clear => exact ih

/-- **The invariant along any run.** -/
theorem run_lossless (callers : Callers ι) (window : Nat) (actions : List (SharedAction ι)) :
    (run (act callers) (.init window) actions).Lossless callers := by
  refine run_induction (P := fun _ s => Shared.Lossless callers s) ⟨?_, ?_⟩ ?_ actions
  · intro key entry hentry
    simp [init, DpdCache.new] at hentry
  · intro i result hdone
    simp [init] at hdone
  · intro _ action ih
    exact ih.act action

end Shared

/-- **No packet is lost**, whatever the order of the callers' turns, evictions and clears: a
caller that had two turns has its answer, a refusal names a caller that was told that the packet
is new, and of the callers with an answer for one key, one with the largest TTL was told so. -/
theorem dpd_lossless {ι : Type} [DecidableEq ι] (callers : Callers ι) (window : Nat)
    (actions : List (SharedAction ι)) (i : ι) :
    let s := run (Shared.act callers) (.init window) actions
    (2 ≤ actions.count (.turn i) → ∃ result, s.phase i = .done result)
      ∧ ∀ result, s.phase i = .done result → s.Excused callers i result
        ∧ ∃ j, s.Accepted j ∧ callers.key j = callers.key i
          ∧ ∀ k result', callers.key k = callers.key i → s.phase k = .done result' →
            callers.ttl k ≤ callers.ttl j := by
  intro s
  have hlossless : s.Lossless callers := Shared.run_lossless callers window actions
  refine ⟨fun hturns => ?_, fun result hdone => ⟨hlossless.excused i result hdone,
    hlossless.exists_accepted hdone⟩⟩
  have hleft : (s.phase i).left ≤ 2 - actions.count (.turn i) :=
    Shared.left_run callers window actions i
  exact Phase.done_of_left (by omega)

end DhcpRelay.Smf
