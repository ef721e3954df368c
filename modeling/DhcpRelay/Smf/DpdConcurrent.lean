import DhcpRelay.Library.Runs
import DhcpRelay.Smf.Dpd

/-!
# DhcpRelay.Smf.DpdConcurrent

**Concurrent callers of one cache.** Each caller carries out one `check_and_insert` in
the steps its body takes: the lookup, which may update the entry it finds, and, if it
found none, a separate insertion. A schedule says whose turn it is; eviction does not
run.

Between the two steps of one caller the key may be inserted by another. What the
second insertion then does wrong, and that nothing else can go wrong, is
`atMostOnce_iff`: **all is well exactly when every insertion still finds the key
absent, or with a smaller TTL**.
-/

namespace DhcpRelay.Smf

open DhcpRelay.Library

/-- How far a caller has come. -/
inductive Phase
  /-- about to look its key up -/
  | start
  /-- has found no entry, and is about to insert one -/
  | missed
  | done (result : RelayResult Bool)

/-- What the callers call with, and when. -/
structure Callers (ι : Type) where
  key : ι → DpdKey
  ttl : ι → UInt8
  now : ι → Int

/-- The cache and the callers working on it. -/
structure Shared (ι : Type) where
  cache : DpdCache
  phase : ι → Phase

namespace Shared

variable {ι : Type} [DecidableEq ι]

/-- A caller has reached a phase. -/
def enter (s : Shared ι) (i : ι) (phase : Phase) : Shared ι :=
  { s with phase := Function.update s.phase i phase }

/-- The next step of caller `i`. -/
def step (callers : Callers ι) (s : Shared ι) (i : ι) : Shared ι :=
  match s.phase i with
  | .start =>
    match s.cache.tryUpdate (callers.key i) (callers.ttl i) (callers.now i) with
    | (some result, cache) => { s with cache := cache }.enter i (.done result)
    | (none, cache) => { s with cache := cache }.enter i .missed
  | .missed =>
    { s with cache := s.cache.insertNew (callers.key i) (callers.ttl i) (callers.now i) }.enter i
      (.done (.ok true))
  | .done _ => s

/-- Nobody has called yet. -/
def init (window : Nat) : Shared ι where
  cache := .new window
  phase := fun _ => .start

/-- Caller `i` was told that its packet is new. -/
def Accepted (s : Shared ι) (i : ι) : Prop := s.phase i = .done (.ok true)

/-- No two callers with one key and TTL were both told that their packet is new. -/
def AtMostOnce (callers : Callers ι) (s : Shared ι) : Prop :=
  ∀ i j, s.Accepted i → s.Accepted j → callers.key i = callers.key j →
    callers.ttl i = callers.ttl j → i = j

/-- The TTL stored for a key does not decrease, and the key does not get lost. -/
def TtlGrows (s s' : Shared ι) : Prop :=
  ∀ key, ∀ entry ∈ s.cache.map key, ∃ entry' ∈ s'.cache.map key, entry.ttl ≤ entry'.ttl

/-- If caller `i` is about to insert, then what it is about to overwrite is smaller. -/
def InsertsFresh (callers : Callers ι) (s : Shared ι) (i : ι) : Prop :=
  s.phase i = .missed → s.cache.Fresh (callers.key i) (callers.ttl i)

variable {callers : Callers ι} {s : Shared ι} {i : ι}

theorem enter_phase (phase : Phase) (j : ι) :
    (s.enter i phase).phase j = if j = i then phase else s.phase j := by
  exact Function.update_apply s.phase i phase j

/-! ### What a step can do -/

/-- Caller `i` is told that its packet is new, and its TTL is stored. -/
def accept (callers : Callers ι) (s : Shared ι) (i : ι) : Shared ι :=
  let entry : DpdEntry := { firstSeen := callers.now i, ttl := callers.ttl i }
  { s with cache := s.cache.put (callers.key i) entry }.enter i (.done (.ok true))

/-- **What one step does**: it is an acceptance, whether out of a lookup or out of an
insertion, or it leaves the cache alone and accepts nothing. -/
theorem step_cases (callers : Callers ι) (s : Shared ι) (i : ι) :
    (s.phase i = .start ∧ s.cache.Fresh (callers.key i) (callers.ttl i)
        ∧ s.step callers i = s.accept callers i)
      ∨ (s.phase i = .missed ∧ s.step callers i = s.accept callers i)
      ∨ (∃ phase, phase ≠ .done (.ok true) ∧ s.phase i = .start
          ∧ s.step callers i = s.enter i phase)
      ∨ (∃ result, s.phase i = .done result ∧ s.step callers i = s) := by
  cases hphase : s.phase i with
  | done result => exact .inr (.inr (.inr ⟨result, rfl, by rw [step, hphase]⟩))
  | missed => exact .inr (.inl ⟨rfl, by rw [step, hphase]; rfl⟩)
  | start =>
      cases hentry : s.cache.map (callers.key i) with
      | none =>
          refine .inr (.inr (.inl ⟨.missed, by simp, rfl, ?_⟩))
          rw [step, hphase]
          simp only [DpdCache.tryUpdate_of_none hentry]
      | some entry =>
          rcases lt_trichotomy entry.ttl (callers.ttl i) with hlt | heq | hgt
          · refine .inl ⟨rfl, by simp [DpdCache.Fresh, hentry, hlt], ?_⟩
            rw [step, hphase]
            simp only [DpdCache.tryUpdate_of_lt hentry hlt]
            rfl
          · refine .inr (.inr (.inl ⟨.done (.ok false), by simp, rfl, ?_⟩))
            rw [step, hphase]
            simp only [← heq, DpdCache.tryUpdate_of_eq hentry]
          · refine .inr (.inr (.inl ⟨.done (.error .dpdStalePacket), by simp, rfl, ?_⟩))
            rw [step, hphase]
            simp only [DpdCache.tryUpdate_of_gt hentry hgt]

/-- **A caller that nobody interrupts carries out `checkAndInsert`.** Its second turn is
idle where the first one has the answer already. -/
theorem step_alone (hstart : s.phase i = .start) :
    ((s.step callers i).step callers i).cache
        = (s.cache.checkAndInsert (callers.key i) (callers.ttl i) (callers.now i)).2
      ∧ ((s.step callers i).step callers i).phase i
        = .done (s.cache.checkAndInsert (callers.key i) (callers.ttl i) (callers.now i)).1 := by
  rcases hupdate : s.cache.tryUpdate (callers.key i) (callers.ttl i) (callers.now i) with
    ⟨_ | result, cache⟩
  · have hfirst : s.step callers i = { s with cache := cache }.enter i .missed := by
      rw [step, hstart]
      simp only [hupdate]
    have hphase : (s.step callers i).phase i = .missed := by rw [hfirst, enter_phase, if_pos rfl]
    rw [step, hphase]
    simp only [DpdCache.checkAndInsert, hupdate, enter_phase, if_true, and_true]
    rw [hfirst]
    rfl
  · have hfirst : s.step callers i = { s with cache := cache }.enter i (.done result) := by
      rw [step, hstart]
      simp only [hupdate]
    have hphase : (s.step callers i).phase i = .done result := by
      rw [hfirst, enter_phase, if_pos rfl]
    rw [step, hphase]
    simp only [DpdCache.checkAndInsert, hupdate, hphase, and_true]
    rw [hfirst]
    rfl

/-- Callers that have been told so stay told. -/
theorem accepted_step {j : ι} (h : s.Accepted j) : (s.step callers i).Accepted j := by
  by_cases hji : j = i
  · subst hji
    rw [Accepted, step, h]
    exact h
  · have henter : ∀ phase, (s.enter i phase).Accepted j := by
      intro phase
      rw [Accepted, enter_phase, if_neg hji]
      exact h
    rcases s.step_cases callers i with ⟨-, -, hstep⟩ | ⟨-, hstep⟩ | ⟨phase, -, -, hstep⟩
        | ⟨_, -, hstep⟩
    · rw [hstep, accept, Accepted, enter_phase, if_neg hji]
      exact h
    · rw [hstep, accept, Accepted, enter_phase, if_neg hji]
      exact h
    · rw [hstep]
      exact henter phase
    · rw [hstep]
      exact h

theorem accept_map (key : DpdKey) :
    (s.accept callers i).cache.map key =
      if key = callers.key i then some { firstSeen := callers.now i, ttl := callers.ttl i }
      else s.cache.map key :=
  DpdCache.put_map _ key

/-- After an acceptance, the accepted callers are those from before and `i`. -/
theorem accepted_accept_iff {j : ι} :
    (s.accept callers i).Accepted j ↔ j = i ∨ s.Accepted j := by
  rw [accept, Accepted, enter_phase]
  by_cases hji : j = i
  · simp [hji]
  · simp [hji, Accepted]

theorem accepted_enter_iff {phase : Phase} (hphase : phase ≠ .done (.ok true))
    (hstart : s.phase i = .start) {j : ι} : (s.enter i phase).Accepted j ↔ s.Accepted j := by
  rw [Accepted, enter_phase]
  by_cases hji : j = i
  · simp [hji, hphase, Accepted, hstart]
  · simp [hji, Accepted]

/-! ### Every entry has an owner -/

/-- Every entry is that of a caller who was told that its packet is new. -/
def Owned (callers : Callers ι) (s : Shared ι) : Prop :=
  ∀ key, ∀ entry ∈ s.cache.map key, ∃ j, s.Accepted j ∧ callers.key j = key
    ∧ callers.ttl j = entry.ttl

theorem Owned.accept (h : s.Owned callers) : (s.accept callers i).Owned callers := by
  intro key entry hentry
  rw [accept_map] at hentry
  split at hentry
  · next hkey =>
      obtain rfl : _ = entry := Option.some.inj hentry
      exact ⟨i, accepted_accept_iff.mpr (.inl rfl), hkey.symm, rfl⟩
  · obtain ⟨j, hj, hfacts⟩ := h key entry hentry
    exact ⟨j, accepted_accept_iff.mpr (.inr hj), hfacts⟩

theorem Owned.step (h : s.Owned callers) (i : ι) : (s.step callers i).Owned callers := by
  rcases s.step_cases callers i with ⟨-, -, hstep⟩ | ⟨-, hstep⟩ | ⟨phase, hphase, hstart, hstep⟩
      | ⟨_, -, hstep⟩
  · rw [hstep]
    exact h.accept
  · rw [hstep]
    exact h.accept
  · intro key entry hentry
    rw [hstep] at hentry ⊢
    obtain ⟨j, hj, hfacts⟩ := h key entry hentry
    exact ⟨j, (accepted_enter_iff hphase hstart).mpr hj, hfacts⟩
  · rw [hstep]
    exact h

/-! ### Safety -/

/-- **The invariant** of a run in which every insertion finds its key absent or smaller. -/
structure Inv (callers : Callers ι) (s : Shared ι) : Prop where
  remembered : ∀ i, s.Accepted i →
    ∃ entry ∈ s.cache.map (callers.key i), callers.ttl i ≤ entry.ttl
  atMostOnce : s.AtMostOnce callers

/-- The acceptance of a fresh packet keeps the invariant: any earlier caller with the
same key and TTL would be remembered. -/
theorem Inv.accept (h : s.Inv callers)
    (hfresh : s.cache.Fresh (callers.key i) (callers.ttl i)) :
    (s.accept callers i).Inv callers ∧ s.TtlGrows (s.accept callers i) := by
  -- whoever was told so before is remembered by an entry that is not smaller
  have hnew : ∀ j, s.Accepted j → callers.key i = callers.key j →
      callers.ttl i ≠ callers.ttl j := by
    intro j hj hkey httl
    obtain ⟨entry, hentry, hle⟩ := h.remembered j hj
    rw [← hkey] at hentry
    rw [← httl] at hle
    exact absurd (hfresh entry hentry) (not_lt_of_ge hle)
  have hgrows : s.TtlGrows (s.accept callers i) := by
    intro key entry hentry
    by_cases hkey : key = callers.key i
    · subst hkey
      exact ⟨_, by rw [accept_map, if_pos rfl]; rfl, (hfresh entry hentry).le⟩
    · exact ⟨entry, by rw [accept_map, if_neg hkey]; exact hentry, le_rfl⟩
  refine ⟨⟨?_, ?_⟩, hgrows⟩
  · intro j hj
    rcases accepted_accept_iff.mp hj with rfl | hj
    · exact ⟨_, by rw [accept_map, if_pos rfl]; rfl, le_rfl⟩
    · obtain ⟨entry, hentry, hle⟩ := h.remembered j hj
      obtain ⟨entry', hentry', hle'⟩ := hgrows _ entry hentry
      exact ⟨entry', hentry', hle.trans hle'⟩
  · intro j k hj hk hkey httl
    rcases accepted_accept_iff.mp hj with rfl | hj'
    · rcases accepted_accept_iff.mp hk with rfl | hk'
      · rfl
      · exact absurd httl (hnew k hk' hkey)
    · rcases accepted_accept_iff.mp hk with rfl | hk'
      · exact absurd httl.symm (hnew j hj' hkey.symm)
      · exact h.atMostOnce j k hj' hk' hkey httl

/-- **One step keeps the invariant**, and no TTL decreases. -/
theorem Inv.step (h : s.Inv callers) (hfresh : s.InsertsFresh callers i) :
    (s.step callers i).Inv callers ∧ s.TtlGrows (s.step callers i) := by
  rcases s.step_cases callers i with ⟨-, hlookup, hstep⟩ | ⟨hmissed, hstep⟩
      | ⟨phase, hphase, hstart, hstep⟩ | ⟨_, -, hstep⟩
  · rw [hstep]
    exact h.accept hlookup
  · rw [hstep]
    exact h.accept (hfresh hmissed)
  · rw [hstep]
    refine ⟨⟨fun j hj => h.remembered j ((accepted_enter_iff hphase hstart).mp hj), ?_⟩,
      fun _ entry hentry => ⟨entry, hentry, le_rfl⟩⟩
    intro j k hj hk
    exact h.atMostOnce j k ((accepted_enter_iff hphase hstart).mp hj)
      ((accepted_enter_iff hphase hstart).mp hk)
  · rw [hstep]
    exact ⟨h, fun _ entry hentry => ⟨entry, hentry, le_rfl⟩⟩

/-- An insertion that does not find its key absent or smaller does damage: a TTL
decreases, or a second caller is told what another one was told already. -/
theorem insertsFresh_of_safe (howned : s.Owned callers)
    (hgrows : s.TtlGrows (s.step callers i)) (honce : (s.step callers i).AtMostOnce callers) :
    s.InsertsFresh callers i := by
  intro hmissed entry hentry
  have hstep : s.step callers i = s.accept callers i := by
    rw [step, hmissed]
    rfl
  have hi : (s.step callers i).Accepted i := hstep ▸ accepted_accept_iff.mpr (.inl rfl)
  obtain ⟨entry', hentry', hle⟩ := hgrows _ entry hentry
  rw [hstep, accept_map, if_pos rfl] at hentry'
  obtain rfl : _ = entry' := Option.some.inj hentry'
  rcases lt_or_eq_of_le hle with hlt | heq
  · exact hlt
  · obtain ⟨j, hj, hkey, httl⟩ := howned _ entry hentry
    have hji : j = i := honce j i (accepted_step hj) hi hkey (httl.trans heq)
    rw [Accepted, hji, hmissed] at hj
    simp at hj

end Shared

/-! ### Runs -/

variable {ι : Type} [DecidableEq ι]

/-- The callers working through a schedule on a new cache. -/
def Callers.run (callers : Callers ι) (window : Nat) (schedule : List ι) : Shared ι :=
  Library.run (Shared.step callers) (.init window) schedule

theorem Callers.run_owned (callers : Callers ι) (window : Nat) (schedule : List ι) :
    (callers.run window schedule).Owned callers := by
  refine run_induction (P := fun _ s => Shared.Owned callers s) ?_ ?_ schedule
  · intro key entry hentry
    simp [Shared.init, DpdCache.new] at hentry
  · intro _ i ih
    exact ih.step i

/-- **Exactly the runs in which every insertion still finds its key absent, or with a
smaller TTL, are safe.** -/
theorem atMostOnce_iff (callers : Callers ι) (window : Nat) (schedule : List ι) :
    ((∀ before, before <+: schedule → (callers.run window before).AtMostOnce callers)
        ∧ Along (Shared.step callers) (fun s i => s.TtlGrows (s.step callers i))
          (.init window) schedule)
      ↔ Along (Shared.step callers) (Shared.InsertsFresh callers) (.init window) schedule := by
  constructor
  · intro hsafe before i hb
    obtain ⟨honce, hgrows⟩ := hsafe
    have hlast := honce (before ++ [i]) hb
    rw [Callers.run, run_concat] at hlast
    exact Shared.insertsFresh_of_safe (callers.run_owned window before) (hgrows before i hb) hlast
  · intro hfresh
    have hinit : (Shared.init window : Shared ι).Inv callers :=
      ⟨fun i hi => by simp [Shared.Accepted, Shared.init] at hi,
        fun i _ hi => by simp [Shared.Accepted, Shared.init] at hi⟩
    have hinv : ∀ before, before <+: schedule → (callers.run window before).Inv callers := by
      intro before hb
      have hbefore : Along (Shared.step callers) (Shared.InsertsFresh callers) (.init window)
          before := fun b i hbi => hfresh b i (hbi.trans hb)
      exact hbefore.invariant (fun s i hs h => (h.step hs).1) hinit
    refine ⟨fun before hb => (hinv before hb).atMostOnce, ?_⟩
    intro before i hb
    exact ((hinv before ((List.prefix_append before [i]).trans hb)).step (hfresh before i hb)).2

/-- Two callers with one packet. -/
def sampleCallers : Callers Bool where
  key := fun _ => { srcAddr := .v4 ⟨10, 0, 0, 1⟩, dstAddr := .v4 ⟨224, 0, 0, 1⟩, packetId := 42 }
  ttl := fun _ => 64
  now := fun _ => 0

/-- If both look the key up before either inserts it, both are told that it is new. -/
theorem sampleCallers_race :
    ¬ (sampleCallers.run 10 [true, false, true, false]).AtMostOnce sampleCallers := by
  intro h
  have hsame : true = false := h true false rfl rfl rfl rfl
  simp at hsame

end DhcpRelay.Smf
