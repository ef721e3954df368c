import Mathlib.Algebra.BigOperators.Group.Multiset.Basic
import Mathlib.Algebra.GroupWithZero.Nat
import Mathlib.Algebra.Order.BigOperators.Group.List
import Mathlib.Algebra.Order.BigOperators.Group.Multiset
import Mathlib.Algebra.Order.Group.Nat
import Mathlib.Data.Multiset.Bind
import Mathlib.Logic.Relation

/-!
# DhcpRelay.Library.Cascade

**Messages that beget messages.** Parties exchange messages over a medium that keeps no
order and may lose them: at any time any message in flight is delivered, and what its
receiver sends is in flight with the others, or it is lost.

What a receiver sends depends on its state, but there is a most that a message can be
answered by (`answer`), and a message weighs more than all of that. From this alone:

* `Run.length_add_worth_le`: a run has no more events than the messages at its start are
  worth, so every run comes to an end;
* `Run.account`: what is delivered is no more than the messages at the start and all that
  comes of them (`offspring`), whatever the order, the losses and the answers left out;
* `Run.delivered_eq`: it is exactly that where every message is answered in full, none is
  lost and none is left in flight.
-/

namespace DhcpRelay.Library

universe u v

variable {σ : Type u} {α : Type v}

/-- Parties in a state of type `σ` that answer messages with messages. -/
structure Cascade (σ : Type u) (α : Type v) where
  /-- The parties after one of them got a message. -/
  next : σ → α → σ
  /-- What the party that got it sends. -/
  sent : σ → α → List α
  answer : α → List α
  sent_le : ∀ s a, (sent s a : Multiset α) ≤ answer a
  weight : α → Nat
  weight_answer : ∀ a, ((answer a).map weight).sum < weight a

namespace Cascade

/-- The parties, and the messages on their way between them. -/
structure State (σ : Type u) (α : Type v) where
  parties : σ
  inFlight : Multiset α

/-- What can happen to a message in flight. -/
inductive Event (α : Type v)
  | deliver (a : α)
  | lose (a : α)

/-- The messages delivered in the course of these events. -/
def delivered (events : List (Event α)) : Multiset α :=
  events.filterMap fun
    | .deliver a => some a
    | .lose _ => none

/-- The messages lost in the course of these events. -/
def lost (events : List (Event α)) : Multiset α :=
  events.filterMap fun
    | .deliver _ => none
    | .lose a => some a

section

variable {events : List (Event α)} {a : α}

@[simp] theorem delivered_nil : delivered ([] : List (Event α)) = 0 := rfl

@[simp] theorem lost_nil : lost ([] : List (Event α)) = 0 := rfl

@[simp] theorem delivered_deliver :
    delivered (.deliver a :: events) = a ::ₘ delivered events := rfl

@[simp] theorem delivered_lose : delivered (.lose a :: events) = delivered events := rfl

@[simp] theorem lost_deliver : lost (.deliver a :: events) = lost events := rfl

@[simp] theorem lost_lose : lost (.lose a :: events) = a ::ₘ lost events := rfl

end

/-- One event. -/
inductive Step (C : Cascade σ α) : State σ α → Event α → State σ α → Prop
  | deliver {s : σ} {a : α} {rest : Multiset α} :
      Step C ⟨s, a ::ₘ rest⟩ (.deliver a) ⟨C.next s a, C.sent s a + rest⟩
  | lose {s : σ} {a : α} {rest : Multiset α} : Step C ⟨s, a ::ₘ rest⟩ (.lose a) ⟨s, rest⟩

/-- A sequence of events. -/
inductive Run (C : Cascade σ α) : State σ α → List (Event α) → State σ α → Prop
  | nil {st : State σ α} : Run C st [] st
  | cons {st mid st' : State σ α} {e : Event α} {events : List (Event α)} :
      Step C st e mid → Run C mid events st' → Run C st (e :: events) st'

variable {C : Cascade σ α} {st st' : State σ α} {e : Event α} {events : List (Event α)}
  {a b : α}

/-! ### Every run ends -/

/-- What messages are worth together. -/
def worth (C : Cascade σ α) (messages : Multiset α) : Nat := (messages.map C.weight).sum

@[simp] theorem worth_zero : C.worth 0 = 0 := rfl

@[simp] theorem worth_cons (a : α) (messages : Multiset α) :
    C.worth (a ::ₘ messages) = C.weight a + C.worth messages := by
  rw [worth, Multiset.map_cons, Multiset.sum_cons]
  rfl

@[simp] theorem worth_add (messages messages' : Multiset α) :
    C.worth (messages + messages') = C.worth messages + C.worth messages' := by
  rw [worth, Multiset.map_add, Multiset.sum_add]
  rfl

theorem worth_mono {messages messages' : Multiset α} (h : messages ≤ messages') :
    C.worth messages ≤ C.worth messages' := by
  obtain ⟨rest, rfl⟩ := Multiset.le_iff_exists_add.mp h
  rw [worth_add]
  exact Nat.le_add_right _ _

theorem weight_pos (C : Cascade σ α) (a : α) : 0 < C.weight a :=
  Nat.zero_lt_of_lt (C.weight_answer a)

theorem worth_sent_lt (C : Cascade σ α) (s : σ) (a : α) : C.worth (C.sent s a) < C.weight a :=
  calc C.worth (C.sent s a) ≤ C.worth (C.answer a) := worth_mono (C.sent_le s a)
    _ = ((C.answer a).map C.weight).sum := by rw [worth, Multiset.map_coe, Multiset.sum_coe]
    _ < C.weight a := C.weight_answer a

/-- Every event takes from what is in flight. -/
theorem Step.worth_lt (h : Step C st e st') : C.worth st'.inFlight < C.worth st.inFlight := by
  cases h with
  | @deliver s a rest =>
      have hsent := C.worth_sent_lt s a
      simp only [worth_add, worth_cons]
      omega
  | @lose s a rest =>
      have hpos := C.weight_pos a
      simp only [worth_cons]
      omega

/-- **Every run ends**: it has no more events than the messages at its start are worth. -/
theorem Run.length_add_worth_le (h : Run C st events st') :
    events.length + C.worth st'.inFlight ≤ C.worth st.inFlight := by
  induction h with
  | nil => simp
  | cons hstep _ ih =>
      have hlt := hstep.worth_lt
      rw [List.length_cons]
      omega

/-- From any state the messages in flight, and all that come of them, can be delivered. -/
theorem Run.exists_quiet (C : Cascade σ α) (st : State σ α) :
    ∃ events st', Run C st events st' ∧ st'.inFlight = 0 ∧ lost events = 0 := by
  induction hn : C.worth st.inFlight using Nat.strong_induction_on generalizing st with
  | _ n ih =>
      obtain ⟨s, messages⟩ := st
      rcases messages.empty_or_exists_mem with rfl | ⟨a, ha⟩
      · exact ⟨[], _, .nil, rfl, rfl⟩
      · obtain ⟨rest, rfl⟩ := Multiset.exists_cons_of_mem ha
        have hstep : Step C ⟨s, a ::ₘ rest⟩ (.deliver a) ⟨C.next s a, C.sent s a + rest⟩ :=
          .deliver
        obtain ⟨events, st', hrun, hquiet, hlost⟩ := ih _ (hn ▸ hstep.worth_lt) _ rfl
        exact ⟨_, st', .cons hstep hrun, hquiet, hlost⟩

/-! ### Weights -/

/-- The size of a tree of `n` generations behind the first, in which nobody has more than
`degree` children. -/
def treeSize (degree : Nat) : Nat → Nat
  | 0 => 1
  | n + 1 => 1 + degree * treeSize degree n

theorem treeSize_mono (degree : Nat) : Monotone (treeSize degree) := by
  refine monotone_nat_of_le_succ fun n => ?_
  induction n with
  | zero => exact Nat.le_add_right 1 _
  | succ n ih => exact Nat.add_le_add_left (Nat.mul_le_mul_left degree ih) 1

/-- Children of later generations are smaller together than their parent. -/
theorem sum_treeSize_lt {degree n : Nat} {children : List α} {generations : α → Nat}
    (hlength : children.length ≤ degree) (hlt : ∀ a ∈ children, generations a < n) :
    (children.map fun a => treeSize degree (generations a)).sum < treeSize degree n := by
  cases n with
  | zero =>
      have hnone : children = [] :=
        List.eq_nil_iff_forall_not_mem.mpr fun a ha => absurd (hlt a ha) (Nat.not_lt_zero _)
      simp [hnone, treeSize]
  | succ n =>
      have hle : ∀ size ∈ children.map fun a => treeSize degree (generations a),
          size ≤ treeSize degree n := by
        intro size hsize
        obtain ⟨a, ha, rfl⟩ := List.mem_map.mp hsize
        exact treeSize_mono degree (Nat.le_of_lt_succ (hlt a ha))
      have hsum := List.sum_le_card_nsmul _ _ hle
      rw [List.length_map, Nat.nsmul_eq_mul] at hsum
      calc (children.map fun a => treeSize degree (generations a)).sum
          ≤ children.length * treeSize degree n := hsum
        _ ≤ degree * treeSize degree n := Nat.mul_le_mul_right _ hlength
        _ < treeSize degree (n + 1) := by rw [treeSize]; omega

/-! ### What comes of a message -/

/-- A message, the answers to it, the answers to those, and so on `n` deep. -/
def expand (C : Cascade σ α) : Nat → α → Multiset α
  | 0, _ => 0
  | n + 1, a => a ::ₘ (C.answer a : Multiset α).bind (C.expand n)

/-- A message and all that can come of it. -/
def offspring (C : Cascade σ α) (a : α) : Multiset α := C.expand (C.weight a) a

theorem weight_lt (h : b ∈ C.answer a) : C.weight b < C.weight a :=
  calc C.weight b ≤ ((C.answer a).map C.weight).sum := List.le_sum_of_mem (List.mem_map_of_mem h)
    _ < C.weight a := C.weight_answer a

/-- There is nothing deeper than a message weighs. -/
theorem expand_eq_expand {n m : Nat} (hn : C.weight a ≤ n) (hm : C.weight a ≤ m) :
    C.expand n a = C.expand m a := by
  have hpos := C.weight_pos a
  induction n generalizing m a with
  | zero => omega
  | succ n ih =>
      cases m with
      | zero => omega
      | succ m =>
          rw [expand, expand]
          congr 1
          refine Multiset.bind_congr fun b hb => ?_
          have hlt := weight_lt (Multiset.mem_coe.mp hb)
          exact ih (by omega) (by omega) (C.weight_pos b)

/-- What comes of a message comes of the answers to it. -/
theorem offspring_eq (C : Cascade σ α) (a : α) :
    C.offspring a = a ::ₘ (C.answer a : Multiset α).bind C.offspring := by
  obtain ⟨n, hn⟩ : ∃ n, C.weight a = n + 1 :=
    Nat.exists_eq_succ_of_ne_zero (C.weight_pos a).ne'
  rw [offspring, hn, expand]
  congr 1
  refine Multiset.bind_congr fun b hb => ?_
  have hlt := weight_lt (Multiset.mem_coe.mp hb)
  exact expand_eq_expand (by omega) le_rfl

/-- A message comes of another exactly when a chain of answers leads to it. -/
theorem mem_offspring_iff :
    b ∈ C.offspring a ↔ Relation.ReflTransGen (fun a b => b ∈ C.answer a) a b := by
  constructor
  · intro hb
    induction hn : C.weight a using Nat.strong_induction_on generalizing a with
    | _ n ih =>
        rw [offspring_eq, Multiset.mem_cons, Multiset.mem_bind] at hb
        rcases hb with rfl | ⟨c, hc, hb⟩
        · exact .refl
        · have hc := Multiset.mem_coe.mp hc
          exact .head hc (ih _ (hn ▸ weight_lt hc) hb rfl)
  · intro hb
    induction hb using Relation.ReflTransGen.head_induction_on with
    | refl =>
        rw [offspring_eq]
        exact Multiset.mem_cons_self b _
    | head hc _ ih =>
        rw [offspring_eq, Multiset.mem_cons, Multiset.mem_bind]
        exact .inr ⟨_, Multiset.mem_coe.mpr hc, ih⟩

/-! ### What is delivered -/

/-- **The account of a run**: what has been delivered, what would have come of what was
lost and what is yet to come are together no more than comes of the messages at the start. -/
theorem Run.account (h : Run C st events st') :
    delivered events + (lost events).bind C.offspring + st'.inFlight.bind C.offspring
      ≤ st.inFlight.bind C.offspring := by
  induction h with
  | nil => simp
  | cons hstep _ ih =>
      cases hstep with
      | @deliver s a rest =>
          obtain ⟨unsent, hanswer⟩ := Multiset.le_iff_exists_add.mp (C.sent_le s a)
          rw [Multiset.cons_bind, offspring_eq, hanswer, delivered_deliver, lost_deliver]
          simp only [Multiset.add_bind, Multiset.cons_add] at ih ⊢
          refine Multiset.cons_le_cons a (ih.trans ?_)
          gcongr
          exact Multiset.le_add_right _ _
      | @lose s a rest =>
          rw [delivered_lose, lost_lose, Multiset.cons_bind, Multiset.cons_bind]
          rw [← Multiset.add_assoc, Multiset.add_comm (delivered _), Multiset.add_assoc,
            Multiset.add_assoc, ← Multiset.add_assoc (delivered _)]
          gcongr

/-- Nothing is delivered but what comes of the messages at the start. -/
theorem Run.delivered_le (h : Run C st events st') :
    delivered events ≤ st.inFlight.bind C.offspring := by
  refine le_trans ?_ h.account
  rw [Multiset.add_assoc]
  exact Multiset.le_add_right _ _

/-- The parties are in states in which they answer in full, and stay in such states. -/
structure InFull (C : Cascade σ α) (I : σ → Prop) : Prop where
  next : ∀ s a, I s → I (C.next s a)
  sent_eq : ∀ s a, I s → C.sent s a = C.answer a

/-- **All that comes of the messages at the start** is delivered, in whatever order, where
they are answered in full, none is lost and none is left in flight. -/
theorem Run.delivered_eq {I : σ → Prop} (hfull : C.InFull I) (h : Run C st events st')
    (hst : I st.parties) (hlost : lost events = 0) (hquiet : st'.inFlight = 0) :
    delivered events = st.inFlight.bind C.offspring := by
  induction h with
  | nil => simp [hquiet]
  | cons hstep _ ih =>
      cases hstep with
      | @deliver s a rest =>
          rw [lost_deliver] at hlost
          have hrest := ih (hfull.next s a hst) hlost hquiet
          rw [delivered_deliver, hrest, Multiset.cons_bind, offspring_eq, Multiset.add_bind,
            Multiset.cons_add, hfull.sent_eq s a hst]
      | lose =>
          rw [lost_lose] at hlost
          exact absurd hlost Multiset.cons_ne_zero

end Cascade

end DhcpRelay.Library
