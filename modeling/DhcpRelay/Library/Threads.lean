import DhcpRelay.Library.Runs
import Mathlib.Algebra.BigOperators.Group.Finset.Piecewise
import Mathlib.Algebra.Order.BigOperators.Group.Finset
import Mathlib.Algebra.Order.Group.Nat
import Mathlib.Data.Fintype.Basic
import Mathlib.Logic.Function.Basic

/-!
# DhcpRelay.Library.Threads

**Threads that share a state.** Each thread has a list of atomic operations to carry out, in
order; a schedule says whose turn it is. The log of all that was carried out, and by whom, is
kept for what is said about a run:

* `Threads.run_program`: what a thread has done and what it has yet to do is its program;
* `Threads.run_shared`: the shared state is what the log makes of the first one;
* `Threads.run_ops_le`: the log holds nothing that is not in a program;
* `Threads.run_ops`: where all threads are done, the log is made up of their programs, in some
  order, so that operations that commute leave the same state under every schedule;
* `Threads.run_log`: and a log in which each thread keeps to its program is that of a run;
* `Threads.countP_le`: what each thread's program has at least as much of, from its beginning
  on, the log has at least as much of.
-/

namespace DhcpRelay.Library

universe u v w

/-- Threads, each with the operations it has yet to carry out, and the state they share. -/
structure Threads (ι : Type u) (β : Type v) (τ : Type w) where
  todo : ι → List β
  shared : τ
  log : List (ι × β)

namespace Threads

variable {ι : Type u} {β : Type v} {τ : Type w}

/-- Nothing is done yet. -/
def init (program : ι → List β) (shared : τ) : Threads ι β τ where
  todo := program
  shared := shared
  log := []

/-- The operations carried out, in order. -/
def ops (s : Threads ι β τ) : List β := s.log.map Prod.snd

/-- All threads are done. -/
def Finished (s : Threads ι β τ) : Prop := ∀ i, s.todo i = []

variable [DecidableEq ι]

/-- The next operation of thread `i`, if it has one. -/
def step (act : τ → β → τ) (s : Threads ι β τ) (i : ι) : Threads ι β τ :=
  match s.todo i with
  | [] => s
  | op :: rest =>
    { todo := Function.update s.todo i rest
      shared := act s.shared op
      log := s.log ++ [(i, op)] }

/-- What thread `i` has done. -/
def doneBy (log : List (ι × β)) (i : ι) : List β :=
  (log.filter fun entry => entry.1 = i).map Prod.snd

variable {act : τ → β → τ} {s : Threads ι β τ} {i : ι} {program : ι → List β} {shared : τ}
  {log : List (ι × β)} {schedule : List ι}

/-- **What a turn can do**: nothing, where the thread is done, or its next operation. -/
theorem step_cases (act : τ → β → τ) (s : Threads ι β τ) (i : ι) :
    (s.todo i = [] ∧ s.step act i = s)
      ∨ ∃ op rest, s.todo i = op :: rest ∧ s.step act i = {
          todo := Function.update s.todo i rest
          shared := act s.shared op
          log := s.log ++ [(i, op)] } := by
  cases htodo : s.todo i with
  | nil => exact .inl ⟨rfl, by rw [step, htodo]⟩
  | cons op rest => exact .inr ⟨op, rest, rfl, by rw [step, htodo]⟩

theorem doneBy_concat (op : β) (j : ι) :
    doneBy (log ++ [(i, op)]) j = doneBy log j ++ if i = j then [op] else [] := by
  unfold doneBy
  rw [List.filter_append, List.map_append]
  by_cases hij : i = j
  · simp [hij]
  · simp [hij]

/-! ### What a run keeps -/

/-- What a thread has done and what it has yet to do is its program. -/
theorem run_program (program : ι → List β) (shared : τ) (schedule : List ι) (i : ι) :
    doneBy (run (step act) (init program shared) schedule).log i
        ++ (run (step act) (init program shared) schedule).todo i = program i := by
  refine run_induction (P := fun _ (s : Threads ι β τ) => doneBy s.log i ++ s.todo i = program i)
    rfl ?_ schedule
  intro actions j ih
  rcases step_cases act (run (step act) (init program shared) actions) j with
    ⟨-, hstep⟩ | ⟨op, rest, htodo, hstep⟩
  · rw [hstep]
    exact ih
  · rw [hstep]
    dsimp only
    rw [doneBy_concat]
    by_cases hij : i = j
    · subst hij
      rw [Function.update_self, if_pos rfl, List.append_assoc, List.singleton_append, ← htodo]
      exact ih
    · rw [Function.update_of_ne hij, if_neg (Ne.symm hij), List.append_nil]
      exact ih

/-- The shared state is what the operations carried out make of the first one. -/
theorem run_shared (program : ι → List β) (shared : τ) (schedule : List ι) :
    (run (step act) (init program shared) schedule).shared
      = (run (step act) (init program shared) schedule).ops.foldl act shared := by
  refine run_induction (P := fun _ (s : Threads ι β τ) => s.shared = s.ops.foldl act shared) rfl
    ?_ schedule
  intro actions i ih
  rcases step_cases act (run (step act) (init program shared) actions) i with
    ⟨-, hstep⟩ | ⟨op, rest, -, hstep⟩
  · rw [hstep]
    exact ih
  · rw [hstep, ops, List.map_append, List.foldl_append]
    exact congrArg (act · op) ih

/-- **A log is a run**, where what each thread has done in it is the beginning of its program:
that in which the threads have their turns in this order. -/
theorem run_log (h : ∀ i, doneBy log i <+: program i) (shared : τ) :
    (run (step act) (init program shared) (log.map Prod.fst)).log = log := by
  induction log using List.reverseRecOn with
  | nil => rfl
  | append_singleton log entry ih =>
      obtain ⟨i, op⟩ := entry
      have hbefore : ∀ j, doneBy log j <+: program j := by
        intro j
        have hj := h j
        rw [doneBy_concat] at hj
        exact (List.prefix_append _ _).trans hj
      have hlog := ih hbefore
      -- so it is the turn of a thread whose next operation is this one
      obtain ⟨rest, hrest⟩ := h i
      have htodo : (run (step act) (init program shared) (log.map Prod.fst)).todo i
          = op :: rest := by
        have hprogram : doneBy (run (step act) (init program shared) (log.map Prod.fst)).log i
            ++ (run (step act) (init program shared) (log.map Prod.fst)).todo i = program i :=
          run_program program shared _ i
        rw [hlog, ← hrest, doneBy_concat, if_pos rfl, List.append_assoc] at hprogram
        exact List.append_cancel_left hprogram
      rw [List.map_append, List.map_singleton, run_concat]
      rcases step_cases act (run (step act) (init program shared) (log.map Prod.fst)) i with
        ⟨hnil, -⟩ | ⟨op', rest', hcons, hstep⟩
      · rw [htodo] at hnil
        simp at hnil
      · rw [htodo] at hcons
        obtain ⟨rfl, rfl⟩ := List.cons.inj hcons
        rw [hstep, hlog]

/-- What is left to do behind a log is what is left of the programs. -/
theorem run_log_todo {todo : ι → List β} (h : ∀ i, doneBy log i ++ todo i = program i)
    (shared : τ) (i : ι) :
    (run (step act) (init program shared) (log.map Prod.fst)).todo i = todo i := by
  have hprogram : doneBy (run (step act) (init program shared) (log.map Prod.fst)).log i
      ++ (run (step act) (init program shared) (log.map Prod.fst)).todo i = program i :=
    run_program program shared _ i
  rw [run_log fun j => ⟨_, h j⟩, ← h i] at hprogram
  exact List.append_cancel_left hprogram

/-- The state that a log leaves. -/
theorem run_log_shared {todo : ι → List β} (h : ∀ i, doneBy log i ++ todo i = program i)
    (shared : τ) :
    (run (step act) (init program shared) (log.map Prod.fst)).shared
      = (log.map Prod.snd).foldl act shared := by
  rw [run_shared, ops, run_log fun j => ⟨_, h j⟩]

section

variable [Fintype ι]

/-- What adds up over the log adds up over what the threads have done. -/
theorem sum_doneBy {M : Type*} [AddCommMonoid M] {f : List β → M} (hnil : f [] = 0)
    (happend : ∀ l l', f (l ++ l') = f l + f l') (log : List (ι × β)) :
    f (log.map Prod.snd) = ∑ i, f (doneBy log i) := by
  induction log using List.reverseRecOn with
  | nil => simp [doneBy, hnil]
  | append_singleton log entry ih =>
      obtain ⟨i, op⟩ := entry
      have hadd : ∀ j, f (doneBy (log ++ [(i, op)]) j)
          = f (doneBy log j) + if i = j then f [op] else 0 := by
        intro j
        rw [doneBy_concat, happend]
        split
        · rfl
        · rw [hnil]
      simp only [hadd, Finset.sum_add_distrib, Finset.sum_ite_eq, Finset.mem_univ, if_true]
      rw [← ih, List.map_append, happend]
      rfl

/-- **Nothing is done that is not in a program**, and nothing more often. -/
theorem run_ops_le (program : ι → List β) (shared : τ) (schedule : List ι) :
    ((run (step act) (init program shared) schedule).ops : Multiset β)
      ≤ ∑ i, (program i : Multiset β) := by
  have hsum : ((run (step act) (init program shared) schedule).ops : Multiset β)
      = ∑ i, (doneBy (run (step act) (init program shared) schedule).log i : Multiset β) :=
    sum_doneBy (f := Multiset.ofList) rfl (fun l l' => (Multiset.coe_add l l').symm) _
  rw [hsum]
  refine Finset.sum_le_sum fun i _ => Multiset.coe_le.mpr ?_
  have hprefix : doneBy (run (step act) (init program shared) schedule).log i <+: program i :=
    ⟨_, run_program program shared schedule i⟩
  exact hprefix.sublist.subperm

/-- **All that is done in the end** is what the programs are made of. -/
theorem run_ops (h : (run (step act) (init program shared) schedule).Finished) :
    ((run (step act) (init program shared) schedule).ops : Multiset β)
      = ∑ i, (program i : Multiset β) := by
  have hsum : ((run (step act) (init program shared) schedule).ops : Multiset β)
      = ∑ i, (doneBy (run (step act) (init program shared) schedule).log i : Multiset β) :=
    sum_doneBy (f := Multiset.ofList) rfl (fun l l' => (Multiset.coe_add l l').symm) _
  rw [hsum]
  refine Finset.sum_congr rfl fun i _ => ?_
  have hprogram : doneBy (run (step act) (init program shared) schedule).log i
      ++ (run (step act) (init program shared) schedule).todo i = program i :=
    run_program program shared schedule i
  rw [h i, List.append_nil] at hprogram
  rw [hprogram]

/-- **An order that each thread keeps**: where no beginning of a program has more in `q` than
in `p`, no beginning of a run has. -/
theorem countP_le {p q : β → Bool}
    (h : ∀ i done, done <+: program i → done.countP q ≤ done.countP p) (schedule : List ι) :
    (run (step act) (init program shared) schedule).ops.countP q
      ≤ (run (step act) (init program shared) schedule).ops.countP p := by
  have hsum : ∀ r : β → Bool, (run (step act) (init program shared) schedule).ops.countP r
      = ∑ i, (doneBy (run (step act) (init program shared) schedule).log i).countP r :=
    fun r => sum_doneBy rfl (fun _ _ => List.countP_append) _
  rw [hsum, hsum]
  refine Finset.sum_le_sum fun i _ => h i _ ?_
  exact ⟨_, run_program program shared schedule i⟩

end

/-- What comes once at most, and not before an operation in `p`, is never ahead of those. -/
theorem countP_le_of_once {p q : β → Bool} {before after : List β} {op : β} (hp : p op = true)
    (hbefore : before.countP q = 0) (honce : (before ++ op :: after).countP q ≤ 1) {done : List β}
    (hdone : done <+: before ++ op :: after) : done.countP q ≤ done.countP p := by
  rcases List.prefix_or_prefix_of_prefix hdone (List.prefix_append _ _) with
    hearly | ⟨_ | ⟨first, rest⟩, rfl⟩
  · have hnone : done.countP q ≤ before.countP q := hearly.sublist.countP_le
    omega
  · rw [List.append_nil]
    omega
  · obtain ⟨rfl, -⟩ := List.cons_prefix_cons.mp ((List.prefix_append_right_inj _).mp hdone)
    have hq : (before ++ first :: rest).countP q ≤ (before ++ first :: after).countP q :=
      hdone.sublist.countP_le
    have hone : 0 < (before ++ first :: rest).countP p :=
      List.countP_pos_iff.mpr ⟨first, by simp, hp⟩
    omega

/-- A condition on the beginnings of a program that is made up of blocks. -/
theorem countP_le_flatMap {α : Type*} {p q : β → Bool} {block : α → List β}
    (h : ∀ a done, done <+: block a → done.countP q ≤ done.countP p) (as : List α) {done : List β}
    (hdone : done <+: as.flatMap block) : done.countP q ≤ done.countP p := by
  induction as generalizing done with
  | nil =>
      obtain rfl : done = [] := List.prefix_nil.mp hdone
      exact le_rfl
  | cons a as ih =>
      rw [List.flatMap_cons] at hdone
      rcases List.prefix_or_prefix_of_prefix hdone (List.prefix_append _ _) with
        hblock | ⟨rest, rfl⟩
      · exact h a done hblock
      · have hrest : rest <+: as.flatMap block := (List.prefix_append_right_inj _).mp hdone
        rw [List.countP_append, List.countP_append]
        exact Nat.add_le_add (h a _ (List.prefix_refl _)) (ih hrest)

end Threads

end DhcpRelay.Library
