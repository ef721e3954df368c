import Mathlib.Data.List.TakeWhile

/-!
# DhcpRelay.Library.Readers

**Readers**: functions that take a value off the front of a list of tokens and return it
with the tokens that are left, or fail.

* `Took P s rest`: `rest` is what is left of `s` when some tokens that meet `P` have been
  taken off its front. What a reader takes off is a relation of this kind, and these
  compose.
* `Cuts keep p`: cutting the input of the reader `p` at the first token that is not in
  `keep` cuts what it leaves, and changes nothing else. This is so of every reader that
  only takes tokens in `keep`, and looks at no others in a way that matters.
-/

namespace DhcpRelay.Library

universe u v w

variable {τ : Type u} {α : Type v} {β : Type w}

/-- A reader of values. -/
abbrev Reader (τ : Type u) (α : Type v) := List τ → Option (α × List τ)

/-- A reader that has nothing to return but the tokens that are left. -/
abbrev Skipper (τ : Type u) := List τ → Option (List τ)

/-! ### What is taken -/

/-- `rest` is `s` without a first part whose tokens all meet `P`. -/
def Took (P : τ → Prop) (s rest : List τ) : Prop := ∃ used, s = used ++ rest ∧ ∀ c ∈ used, P c

namespace Took

variable {P Q : τ → Prop} {s mid rest : List τ}

theorem refl (P : τ → Prop) (s : List τ) : Took P s s := ⟨[], rfl, by simp⟩

theorem cons {c : τ} (hc : P c) (h : Took P s rest) : Took P (c :: s) rest := by
  obtain ⟨used, rfl, hused⟩ := h
  refine ⟨c :: used, rfl, fun d hd => ?_⟩
  rcases List.mem_cons.mp hd with rfl | hd
  · exact hc
  · exact hused d hd

/-- What is taken in two steps. -/
theorem trans (h : Took P s mid) (h' : Took P mid rest) : Took P s rest := by
  obtain ⟨used, rfl, hused⟩ := h
  obtain ⟨used', rfl, hused'⟩ := h'
  refine ⟨used ++ used', (List.append_assoc _ _ _).symm, fun c hc => ?_⟩
  rcases List.mem_append.mp hc with hc | hc
  · exact hused c hc
  · exact hused' c hc

theorem mono (hPQ : ∀ c, P c → Q c) (h : Took P s rest) : Took Q s rest := by
  obtain ⟨used, hs, hused⟩ := h
  exact ⟨used, hs, fun c hc => hPQ c (hused c hc)⟩

/-- What is left is a part of the input. -/
theorem subset (h : Took P s rest) : rest ⊆ s := by
  obtain ⟨used, rfl, -⟩ := h
  exact List.subset_append_right used rest

theorem dropWhile (p : τ → Bool) (s : List τ) : Took (fun c => p c = true) s (s.dropWhile p) :=
  ⟨s.takeWhile p, List.takeWhile_append_dropWhile.symm, fun _ hc => List.mem_takeWhile_imp hc⟩

end Took

/-! ### Cutting the input -/

/-- A reader that cannot see whether its input is cut at the first token not in `keep`. -/
def Cuts (keep : τ → Bool) (p : Reader τ α) : Prop :=
  ∀ s, p (s.takeWhile keep) = (p s).map fun x => (x.1, x.2.takeWhile keep)

/-- Likewise without a value. -/
def SkipCuts (keep : τ → Bool) (p : Skipper τ) : Prop :=
  ∀ s, p (s.takeWhile keep) = (p s).map (List.takeWhile keep)

section

variable {keep : τ → Bool}

theorem Cuts.return (a : α) : Cuts keep (fun s => some (a, s)) := fun _ => rfl

/-- A reader and what is read behind it. -/
theorem Cuts.bind {p : Reader τ α} {q : α → Reader τ β} (hp : Cuts keep p)
    (hq : ∀ a, Cuts keep (q a)) : Cuts keep (fun s => (p s).bind fun x => q x.1 x.2) := by
  intro s
  change (p (s.takeWhile keep)).bind (fun x => q x.1 x.2) = _
  rw [hp]
  cases hps : p s with
  | none => simp [hps]
  | some x => simpa [hps] using hq x.1 x.2

theorem SkipCuts.bind {p : Skipper τ} {q : Reader τ β} (hp : SkipCuts keep p)
    (hq : Cuts keep q) : Cuts keep (fun s => (p s).bind q) := by
  intro s
  change (p (s.takeWhile keep)).bind q = _
  rw [hp]
  cases hps : p s with
  | none => simp [hps]
  | some rest => simpa [hps] using hq rest

/-- Taking tokens off up to the cut. -/
theorem takeWhile_takeWhile_of_imp {p : τ → Bool} (h : ∀ c, p c = true → keep c = true)
    (s : List τ) : (s.takeWhile keep).takeWhile p = s.takeWhile p := by
  have hboth : (fun c => decide (p c = true ∧ keep c = true)) = p := by
    funext c
    by_cases hp : p c = true
    · simp [hp, h c hp]
    · simp [hp]
  rw [List.takeWhile_takeWhile, hboth]

theorem dropWhile_takeWhile_of_imp {p : τ → Bool} (h : ∀ c, p c = true → keep c = true)
    (s : List τ) : (s.takeWhile keep).dropWhile p = (s.dropWhile p).takeWhile keep := by
  induction s with
  | nil => rfl
  | cons c s ih =>
      by_cases hkeep : keep c = true
      · rw [List.takeWhile_cons_of_pos hkeep, List.dropWhile_cons, List.dropWhile_cons, ih]
        split
        · rfl
        · rw [List.takeWhile_cons_of_pos hkeep]
      · have hp : ¬ p c = true := fun hp => hkeep (h c hp)
        rw [List.takeWhile_cons_of_neg hkeep, List.dropWhile_cons_of_neg hp,
          List.takeWhile_cons_of_neg hkeep]
        rfl

end

end DhcpRelay.Library
