import Mathlib.Data.List.Induction

/-!
# DhcpRelay.Library.Runs

**Runs of a deterministic step function** over a list of actions, and the rules for
proving things about them:

* `run_induction`: what holds before the first step and is kept by one step at the
  end of any run holds of every run, as a statement about the actions and the state;
* `run_turns`: what comes of some actions in this order, with anything between them;
* `Along.invariant`: an invariant may use a condition that every step of the run meets;
* `run_filter`: actions that a relation does not see may be left out.
-/

namespace DhcpRelay.Library

universe u v w

variable {σ : Type u} {τ : Type w} {α : Type v} {step : σ → α → σ} {s : σ}

/-- The state after the steps of `actions`. -/
def run (step : σ → α → σ) (s : σ) (actions : List α) : σ := actions.foldl step s

@[simp] theorem run_nil (step : σ → α → σ) (s : σ) : run step s [] = s := rfl

theorem run_append (step : σ → α → σ) (s : σ) (before after : List α) :
    run step s (before ++ after) = run step (run step s before) after := List.foldl_append

@[simp] theorem run_concat (step : σ → α → σ) (s : σ) (actions : List α) (a : α) :
    run step s (actions ++ [a]) = step (run step s actions) a := by
  rw [run_append]
  rfl

/-- **Induction on runs**, from the first step to the last. -/
theorem run_induction {P : List α → σ → Prop} (nil : P [] s)
    (concat : ∀ actions a, P actions (run step s actions) →
      P (actions ++ [a]) (step (run step s actions) a)) (actions : List α) :
    P actions (run step s actions) := by
  induction actions using List.reverseRecOn with
  | nil => exact nil
  | append_singleton actions a ih =>
      rw [run_concat]
      exact concat actions a ih

/-- **Progress**: where `turns` come in this order, with anything between them, an invariant
that speaks of the turns still to come holds at the end with none to come. -/
theorem run_turns {I : List α → σ → Prop} {G : α → Prop} {turns actions : List α}
    (keep : ∀ s a rest, G a → I rest s → I rest (step s a))
    (turn : ∀ s a rest, G a → I (a :: rest) s → I rest (step s a))
    (hturns : turns.Sublist actions) (hG : ∀ a ∈ actions, G a) (hs : I turns s) :
    I [] (run step s actions) := by
  induction hturns generalizing s with
  | slnil => exact hs
  | cons a _ ih =>
      obtain ⟨ha, hactions⟩ := List.forall_mem_cons.mp hG
      exact ih hactions (keep s a _ ha hs)
  | cons_cons a _ ih =>
      obtain ⟨ha, hactions⟩ := List.forall_mem_cons.mp hG
      exact ih hactions (turn s a _ ha hs)

/-! ### Counters -/

/-- A counter that each action in `p` adds one to, and no other action changes. -/
theorem run_countP {c : σ → Nat} {p : α → Bool}
    (h : ∀ s a, c (step s a) = c s + if p a then 1 else 0) (actions : List α) :
    c (run step s actions) = c s + actions.countP p := by
  induction actions using List.reverseRecOn with
  | nil => rfl
  | append_singleton actions a ih =>
      rw [run_concat, h, ih, List.countP_append, List.countP_singleton, Nat.add_assoc]

/-- Where every action of one kind is also of another, the two counts agree exactly if no
other action is of the second kind. -/
theorem countP_eq_iff_of_imp {p q : α → Bool} {actions : List α}
    (hpq : ∀ a ∈ actions, p a = true → q a = true) :
    actions.countP q = actions.countP p ↔ ∀ a ∈ actions, q a = true → p a = true := by
  induction actions with
  | nil => simp
  | cons a actions ih =>
      obtain ⟨ha, hactions⟩ := List.forall_mem_cons.mp hpq
      have hle : actions.countP p ≤ actions.countP q := List.countP_mono_left hactions
      rw [List.countP_cons, List.countP_cons, List.forall_mem_cons, ← ih hactions]
      by_cases hp : p a = true
      · simp [hp, ha hp]
      · by_cases hq : q a = true
        · rw [if_pos hq, if_neg hp]
          exact ⟨fun h => by omega, fun h => absurd (h.1 hq) hp⟩
        · simp [hp, hq]

/-! ### Conditions along a run -/

/-- What holds of each element of a list and those before it: of the last element and of the
list before it. -/
theorem forall_prefix_concat_iff {R : List α → α → Prop} {l : List α} {a : α} :
    (∀ before b, before ++ [b] <+: l ++ [a] → R before b)
      ↔ (∀ before b, before ++ [b] <+: l → R before b) ∧ R l a := by
  constructor
  · intro h
    exact ⟨fun before b hb => h before b (hb.trans (List.prefix_append l [a])),
      h l a (List.prefix_refl _)⟩
  · rintro ⟨hl, ha⟩ before b hb
    rcases List.prefix_concat_iff.mp hb with heq | hb
    · obtain ⟨rfl, rfl⟩ : before = l ∧ b = a := by simpa using heq
      exact ha
    · exact hl before b hb

/-- An element of a list with one more at the end is in the list, or is the last. -/
theorem getElem?_concat_cases {l : List α} {a b : α} {i : Nat} (h : (l ++ [a])[i]? = some b) :
    l[i]? = some b ∨ i = l.length ∧ b = a := by
  by_cases hi : i < l.length
  · rw [List.getElem?_append_left hi] at h
    exact .inl h
  · obtain ⟨hlt, -⟩ := List.getElem?_eq_some_iff.mp h
    rw [List.length_append, List.length_singleton] at hlt
    obtain rfl : i = l.length := by omega
    rw [List.getElem?_concat_length] at h
    exact .inr ⟨rfl, (Option.some.inj h).symm⟩

/-- Every step of the run meets `G`, a condition on the state before it and the action. -/
def Along (step : σ → α → σ) (G : σ → α → Prop) (s : σ) (actions : List α) : Prop :=
  ∀ before a, before ++ [a] <+: actions → G (run step s before) a

namespace Along

variable {G : σ → α → Prop} {actions : List α} {a : α}

theorem nil : Along step G s [] := by
  intro before a h
  simp at h

/-- The last step and the steps before it. -/
theorem concat_iff :
    Along step G s (actions ++ [a]) ↔ Along step G s actions ∧ G (run step s actions) a :=
  forall_prefix_concat_iff

/-- **Invariants**: what a step that meets `G` keeps, a run along `G` keeps. -/
theorem invariant {I : σ → Prop} (hstep : ∀ s a, G s a → I s → I (step s a))
    (h : Along step G s actions) (hs : I s) : I (run step s actions) := by
  induction actions using List.reverseRecOn with
  | nil => exact hs
  | append_singleton actions a ih =>
      obtain ⟨hactions, ha⟩ := concat_iff.mp h
      rw [run_concat]
      exact hstep _ _ ha (ih hactions)

end Along

/-! ### Actions that are not seen -/

/-- Where `R` relates what the actions in `p` do, and does not see the others, the
others may be left out of the second run. -/
theorem run_filter {R : σ → τ → Prop} {step' : τ → α → τ} {p : α → Bool}
    (hseen : ∀ s t a, p a = true → R s t → R (step s a) (step' t a))
    (hunseen : ∀ s t a, p a = false → R s t → R (step s a) t) {t : τ} (h : R s t)
    (actions : List α) : R (run step s actions) (run step' t (actions.filter p)) := by
  induction actions generalizing s t with
  | nil => exact h
  | cons a actions ih =>
      cases ha : p a with
      | true =>
          rw [List.filter_cons_of_pos ha]
          exact ih (hseen s t a ha h)
      | false =>
          rw [List.filter_cons_of_neg (by simp [ha])]
          exact ih (hunseen s t a ha h)

end DhcpRelay.Library
