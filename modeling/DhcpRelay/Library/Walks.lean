import Mathlib.Data.List.Chain
import Mathlib.Data.List.Perm.Subperm

/-!
# DhcpRelay.Library.Walks

**Walks** along a relation, from place to place. There may be several places to go on to from
a place, or none.

* `Endless`: there are walks of any length from here;
* `walks_of_invariant`: so there are where an invariant provides a next place and holds of it
  again;
* `Walk.forever`: a walk over as many places as a list has, all of them in the list, shows that
  there are walks of any length, over no other places than those it goes over.
-/

namespace DhcpRelay.Library

universe u

variable {σ : Type u} {r : σ → σ → Prop} {s t u : σ} {via : List σ}

/-- A walk along `r` from `s` to `t`, over the places in `via`. -/
def Walk (r : σ → σ → Prop) (s : σ) (via : List σ) (t : σ) : Prop := (s :: (via ++ [t])).IsChain r

/-- There is no last place to come to from `s`. -/
def Endless (r : σ → σ → Prop) (s : σ) : Prop := ∀ n, ∃ via t, via.length = n ∧ Walk r s via t

@[simp] theorem Walk.nil_iff : Walk r s [] t ↔ r s t := List.isChain_pair

@[simp] theorem Walk.cons_iff : Walk r s (u :: via) t ↔ r s u ∧ Walk r u via t :=
  List.isChain_cons_cons

/-- What holds of every place that a step leads to holds of all places of a walk behind the
first. -/
theorem Walk.forall_places {P : σ → Prop} (hstep : ∀ s t, r s t → P t) (h : Walk r s via t) :
    ∀ u ∈ via ++ [t], P u := by
  induction via generalizing s with
  | nil => exact List.forall_mem_singleton.mpr (hstep s t (nil_iff.mp h))
  | cons u via ih =>
      obtain ⟨hfirst, hrest⟩ := cons_iff.mp h
      exact List.forall_mem_cons.mpr ⟨hstep s u hfirst, ih hrest⟩

/-- **Invariants**: where every place that `I` holds of leads to another one, walks do not
end. -/
theorem walks_of_invariant {I : σ → Prop} (hnext : ∀ s, I s → ∃ t, r s t ∧ I t) (hs : I s)
    (n : Nat) : ∃ via t, via.length = n ∧ (∀ u ∈ via, I u) ∧ Walk r s via t := by
  induction n generalizing s with
  | zero =>
      obtain ⟨t, hstep, -⟩ := hnext s hs
      exact ⟨[], t, rfl, by simp, Walk.nil_iff.mpr hstep⟩
  | succ n ih =>
      obtain ⟨u, hstep, hu⟩ := hnext s hs
      obtain ⟨via, t, hlength, hvia, hwalk⟩ := ih hu
      exact ⟨u :: via, t, by rw [List.length_cons, hlength],
        List.forall_mem_cons.mpr ⟨hu, hvia⟩, Walk.cons_iff.mpr ⟨hstep, hwalk⟩⟩

/-- Once a walk has come to a place again, it can go round for ever. -/
theorem Walk.forever_of_round {round : List σ} (h : Walk r s round s) (n : Nat) :
    ∃ via t, via.length = n ∧ (∀ u ∈ via, u ∈ s :: round) ∧ Walk r s via t := by
  -- from every place of the round the rest of it leads back to `s`
  have hnext : ∀ u, (u ∈ s :: round ∧ ∃ rest, rest ⊆ round ∧ Walk r u rest s) →
      ∃ t, r u t ∧ (t ∈ s :: round ∧ ∃ rest, rest ⊆ round ∧ Walk r t rest s) := by
    rintro u ⟨-, rest, hrest, hback⟩
    cases rest with
    | nil => exact ⟨s, nil_iff.mp hback, List.mem_cons_self, round, List.Subset.refl _, h⟩
    | cons t rest =>
        obtain ⟨hstep, hback⟩ := cons_iff.mp hback
        obtain ⟨ht, hrest⟩ := List.cons_subset.mp hrest
        exact ⟨t, hstep, List.mem_cons_of_mem _ ht, rest, hrest, hback⟩
  obtain ⟨via, t, hlength, hvia, hwalk⟩ :=
    walks_of_invariant hnext ⟨List.mem_cons_self, round, List.Subset.refl _, h⟩ n
  exact ⟨via, t, hlength, fun u hu => (hvia u hu).1, hwalk⟩

/-- So can one that comes to some place twice. -/
theorem Walk.forever_of_repeats (h : Walk r s via t) (hrepeats : ¬ (via ++ [t]).Nodup) (n : Nat) :
    ∃ via' t', via'.length = n ∧ (∀ u ∈ via', u ∈ via) ∧ Walk r s via' t' := by
  induction via generalizing s n with
  | nil => simp at hrepeats
  | cons u via ih =>
      obtain ⟨hstep, hwalk⟩ := cons_iff.mp h
      have hfrom : ∀ n, ∃ via' t', via'.length = n ∧ (∀ w ∈ via', w ∈ u :: via)
          ∧ Walk r u via' t' := by
        intro n
        by_cases hu : u ∈ via ++ [t]
        · -- it comes to `u` again, at the latest at the end
          obtain ⟨round, rest, hsplit⟩ := List.append_of_mem hu
          have hround : Walk r u round u := by
            rw [Walk, hsplit, List.isChain_cons_split] at hwalk
            exact hwalk.1
          have hsub : round <+: via := by
            have hpre : round <+: via ++ [t] := ⟨u :: rest, hsplit.symm⟩
            refine List.prefix_of_prefix_length_le hpre (List.prefix_append _ _) ?_
            have hlength := congrArg List.length hsplit
            simp only [List.length_append, List.length_cons, List.length_nil] at hlength
            omega
          obtain ⟨via', t', hlength, hvia', hwalk'⟩ := hround.forever_of_round n
          refine ⟨via', t', hlength, fun w hw => ?_, hwalk'⟩
          exact List.cons_subset_cons u hsub.subset (hvia' w hw)
        · have hrest : ¬ (via ++ [t]).Nodup := fun hnodup =>
            hrepeats (List.nodup_cons.mpr ⟨hu, hnodup⟩)
          obtain ⟨via', t', hlength, hvia', hwalk'⟩ := ih hwalk hrest n
          exact ⟨via', t', hlength, fun w hw => List.mem_cons_of_mem u (hvia' w hw), hwalk'⟩
      cases n with
      | zero => exact ⟨[], u, rfl, by simp, nil_iff.mpr hstep⟩
      | succ n =>
          obtain ⟨via', t', hlength, hvia', hwalk'⟩ := hfrom n
          exact ⟨u :: via', t', by rw [List.length_cons, hlength],
            List.forall_mem_cons.mpr ⟨List.mem_cons_self, hvia'⟩, cons_iff.mpr ⟨hstep, hwalk'⟩⟩

/-- **A walk among the places of a list** that has gone over as many as there are need not come
to an end. -/
theorem Walk.forever {places : List σ} (h : Walk r s via t)
    (hplaces : ∀ u ∈ via ++ [t], u ∈ places) (hlong : places.length ≤ via.length) (n : Nat) :
    ∃ via' t', via'.length = n ∧ (∀ u ∈ via', u ∈ via) ∧ Walk r s via' t' := by
  refine h.forever_of_repeats (fun hnodup => ?_) n
  have hle := (hnodup.subperm hplaces).length_le
  rw [List.length_append, List.length_singleton] at hle
  omega

end DhcpRelay.Library
