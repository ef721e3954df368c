import Mathlib.Data.List.Forall2

/-!
# DhcpRelay.Library.Stages

**Halting chains of fallible stages.** A stage reads and writes a state `σ` and
then either lets the chain go on (`ok true`), halts it quietly (`ok false`) or
fails with an error of type `ε`. The state it leaves behind survives all three
outcomes, as it does for a method that works on a mutable reference.

`execute` runs the stages of a list in order up to the first one that does not
let the chain go on. The rule a client uses is `execute_simulates`: when each
stage of one chain simulates the corresponding stage of another, the chains
have the same outcome and their final states are related. It turns a
computation on a concrete state into one on whatever the state stands for,
without looking at the order or the number of the stages.
-/

namespace DhcpRelay.Library

universe u v w

/-- A stage: an outcome, and the state it leaves behind. -/
abbrev Stage (σ : Type u) (ε : Type w) := σ → Except ε Bool × σ

namespace Stages

variable {σ : Type u} {τ : Type v} {ε : Type w}

/-- Run the stages in order, stopping at the first that halts or fails. -/
def execute : List (Stage σ ε) → Stage σ ε
  | [], s => (.ok true, s)
  | f :: rest, s =>
    match f s with
    | (.ok true, s') => execute rest s'
    | (.ok false, s') => (.ok false, s')
    | (.error e, s') => (.error e, s')

@[simp] theorem execute_nil (s : σ) : execute ([] : List (Stage σ ε)) s = (.ok true, s) := rfl

/-- A stage that lets the chain go on hands its state to the rest. -/
theorem execute_cons_pass {f : Stage σ ε} {s s' : σ} (h : f s = (.ok true, s'))
    (rest : List (Stage σ ε)) : execute (f :: rest) s = execute rest s' := by
  rw [execute, h]

/-- A stage that halts the chain decides its result. -/
theorem execute_cons_halt {f : Stage σ ε} {s s' : σ} (h : f s = (.ok false, s'))
    (rest : List (Stage σ ε)) : execute (f :: rest) s = (.ok false, s') := by
  rw [execute, h]

/-- A stage that fails decides the chain's result. -/
theorem execute_cons_fail {f : Stage σ ε} {s s' : σ} {e : ε} (h : f s = (.error e, s'))
    (rest : List (Stage σ ε)) : execute (f :: rest) s = (.error e, s') := by
  rw [execute, h]

/-- A chain of one stage. -/
@[simp] theorem execute_singleton (f : Stage σ ε) (s : σ) : execute [f] s = f s := by
  rcases hf : f s with ⟨_ | _ | _, s'⟩
  · exact execute_cons_fail hf []
  · exact execute_cons_halt hf []
  · exact execute_cons_pass hf []

/-- A chain of two parts runs the second only where the first lets it. -/
theorem execute_append (fs gs : List (Stage σ ε)) (s : σ) :
    execute (fs ++ gs) s =
      match execute fs s with
      | (.ok true, s') => execute gs s'
      | (.ok false, s') => (.ok false, s')
      | (.error e, s') => (.error e, s') := by
  induction fs generalizing s with
  | nil => rfl
  | cons f fs ih =>
      rw [List.cons_append]
      rcases hf : f s with ⟨_ | _ | _, s'⟩
      · rw [execute_cons_fail hf, execute_cons_fail hf]
      · rw [execute_cons_halt hf, execute_cons_halt hf]
      · rw [execute_cons_pass hf, execute_cons_pass hf]
        exact ih s'

/-- A part that lets the chain go on hands its state to what follows. -/
theorem execute_append_pass {fs : List (Stage σ ε)} {s s' : σ} (h : execute fs s = (.ok true, s'))
    (gs : List (Stage σ ε)) : execute (fs ++ gs) s = execute gs s' := by
  rw [execute_append, h]

/-- A part that does not let the chain go on decides its result. -/
theorem execute_append_stop {fs : List (Stage σ ε)} {s s' : σ} {result : Except ε Bool}
    (h : execute fs s = (result, s')) (hresult : result ≠ .ok true) (gs : List (Stage σ ε)) :
    execute (fs ++ gs) s = (result, s') := by
  rw [execute_append, h]
  rcases result with e | passed
  · rfl
  · cases passed with
    | false => rfl
    | true => exact absurd rfl hresult

/-- A chain that lets everything through ran every part of it to the end. -/
theorem execute_append_inv {fs gs : List (Stage σ ε)} {s t : σ}
    (h : execute (fs ++ gs) s = (.ok true, t)) :
    ∃ s', execute fs s = (.ok true, s') ∧ execute gs s' = (.ok true, t) := by
  rw [execute_append] at h
  rcases hfs : execute fs s with ⟨_ | _ | _, s'⟩
  · rw [hfs] at h
    simp at h
  · rw [hfs] at h
    simp at h
  · rw [hfs] at h
    exact ⟨s', rfl, h⟩

/-- What every stage keeps on its way to the next, the chain keeps. -/
theorem execute_keeps {I : σ → Prop} {fs : List (Stage σ ε)}
    (h : ∀ f ∈ fs, ∀ s s', f s = (.ok true, s') → I s → I s') {s t : σ}
    (hrun : execute fs s = (.ok true, t)) (hs : I s) : I t := by
  induction fs generalizing s with
  | nil =>
      obtain rfl : s = t := congrArg Prod.snd hrun
      exact hs
  | cons f fs ih =>
      have hrest : ∀ g ∈ fs, ∀ s s', g s = (.ok true, s') → I s → I s' :=
        fun g hg => h g (List.mem_cons_of_mem f hg)
      rcases hf : f s with ⟨_ | _ | _, s'⟩
      · rw [execute_cons_fail hf] at hrun
        simp at hrun
      · rw [execute_cons_halt hf] at hrun
        simp at hrun
      · rw [execute_cons_pass hf] at hrun
        exact ih hrest hrun (h f List.mem_cons_self s s' hf hs)

/-- Where no stage but the last touches `D`, and the last one makes `D` true exactly if it
lets the chain go on, the chain goes through exactly if `D` is true in the end. -/
theorem execute_passes_iff {D : σ → Prop} {fs : List (Stage σ ε)} {last : Stage σ ε}
    (hkeep : ∀ f ∈ fs, ∀ s, D (f s).2 ↔ D s)
    (hlast : ∀ s, ¬ D s → ((last s).1 = .ok true ↔ D (last s).2)) {s : σ} (hs : ¬ D s) :
    (execute (fs ++ [last]) s).1 = .ok true ↔ D (execute (fs ++ [last]) s).2 := by
  induction fs generalizing s with
  | nil =>
      rw [List.nil_append, execute_singleton]
      exact hlast s hs
  | cons f fs ih =>
      have hrest : ∀ g ∈ fs, ∀ s, D (g s).2 ↔ D s := fun g hg => hkeep g (List.mem_cons_of_mem f hg)
      have hs' : ¬ D (f s).2 := fun h => hs ((hkeep f List.mem_cons_self s).mp h)
      rw [List.cons_append]
      rcases hf : f s with ⟨_ | _ | _, s'⟩
      · rw [execute_cons_fail hf]
        simpa [hf] using hs'
      · rw [execute_cons_halt hf]
        simpa [hf] using hs'
      · rw [execute_cons_pass hf]
        exact ih hrest (by simpa [hf] using hs')

/-! ### Simulation -/

/-- `f` simulates `g` along `R`: from related states they have the same outcome
and leave related states behind. -/
def Simulates (R : σ → τ → Prop) (f : Stage σ ε) (g : Stage τ ε) : Prop :=
  ∀ s t, R s t → (f s).1 = (g t).1 ∧ R (f s).2 (g t).2

/-- Stage by stage simulation is simulation of the whole chain. -/
theorem execute_simulates {R : σ → τ → Prop} {fs : List (Stage σ ε)} {gs : List (Stage τ ε)}
    (h : List.Forall₂ (Simulates R) fs gs) : Simulates R (execute fs) (execute gs) := by
  induction h with
  | nil => exact fun _ _ hst => ⟨rfl, hst⟩
  | @cons f g fs gs hfg _ ih =>
      intro s t hst
      obtain ⟨hout, hrel⟩ := hfg s t hst
      rcases hf : f s with ⟨out, s'⟩
      rcases hg : g t with ⟨out', t'⟩
      rw [hf, hg] at hout hrel
      obtain rfl : out = out' := hout
      -- the two chains part company with their stages only on `ok true`
      match out with
      | .ok true =>
          rw [execute_cons_pass hf, execute_cons_pass hg]
          exact ih s' t' hrel
      | .ok false =>
          rw [execute_cons_halt hf, execute_cons_halt hg]
          exact ⟨rfl, hrel⟩
      | .error e =>
          rw [execute_cons_fail hf, execute_cons_fail hg]
          exact ⟨rfl, hrel⟩

end Stages

end DhcpRelay.Library
