import IntentLint.Model.Slot
import IntentLint.Proofs.Linter.Verdict
import IntentLint.Proofs.Model.Readings
import Mathlib.Data.Option.Basic

/-!
# `Proofs.Model.Agreement` — readings that come to the same

The checks see the phrases and the slots of a model and nothing else, and many documents lead to the same ones.
So two readings are compared by a view of what is read (`Reading.Agree`): both fail, or both succeed with values
that look the same. Readings of parts that agree make readings of wholes that agree; and a list that is absent,
null or empty is the same to everyone.
-/

namespace IntentLint

namespace Reading

variable {α β γ δ : Type}

/-- Both readings fail, or both have values that look the same. -/
def Agree (view : α → β) (r r' : Reading α) : Prop := r.toOption.map view = r'.toOption.map view

variable {view : α → β}

theorem Agree.map {f : δ → α} {q q' : Reading δ} (h : Agree (fun d => view (f d)) q q') :
    Agree view (q.map f) (q'.map f) := by
  have hmap : ∀ q : Reading δ, (q.map f : Reading α).toOption.map view =
      q.toOption.map fun d => view (f d) := by
    intro q
    cases q <;> rfl
  show (q.map f : Reading α).toOption.map view = (q'.map f : Reading α).toOption.map view
  rw [hmap, hmap]
  exact h

/-- Two readings agree when their parts do, and what is seen of both is made of what is seen of the parts. -/
theorem Agree.both {ε : Type} {view' : γ → δ} {a a' : Reading α} {b b' : Reading γ} (ha : Agree view a a')
    (hb : Agree view' b b') (combine : β → δ → ε) :
    Agree (fun p => combine (view p.1) (view' p.2)) (both a b) (both a' b') := by
  have hboth : ∀ (a : Reading α) (b : Reading γ),
      (Reading.both a b).toOption.map (fun p => combine (view p.1) (view' p.2)) =
        (a.toOption.map view).bind fun seen => (b.toOption.map view').map (combine seen) := by
    intro a b
    cases a <;> cases b <;> rfl
  unfold Agree at ha hb
  show (Reading.both a b).toOption.map _ = (Reading.both a' b').toOption.map _
  rw [hboth, hboth, ha, hb]

/-! ### Lists and tables -/

variable {see : α → List γ}

/-- Readings one after the other agree when they do one by one. -/
theorem agree_all {rs rs' : List (Reading α)} (h : List.Forall₂ (Agree see) rs rs') :
    Agree (fun xs => xs.flatMap see) (all rs) (all rs') := by
  induction h with
  | nil => rfl
  | @cons q q' qs qs' hq _ ih =>
    have hcons : (fun p : α × List α => (p.1 :: p.2).flatMap see) = fun p => see p.1 ++ p.2.flatMap see :=
      funext fun p => List.flatMap_cons
    rw [all, all]
    apply Agree.map
    rw [hcons]
    exact hq.both ih (· ++ ·)

theorem toOption_under (r : Reading α) (step : Step) : (r.under step).toOption = r.toOption := by
  cases r <;> rfl

/-- Lists agree when their items do, whatever their indices. -/
theorem agree_list {item : Json → Reading α} {vs vs' : List Json}
    (h : List.Forall₂ (fun v v' => Agree see (item v) (item v')) vs vs') :
    Agree (fun xs => xs.flatMap see) (list item (.array vs)) (list item (.array vs')) := by
  have hunder : ∀ (v v' : Json) (i i' : Nat), Agree see (item v) (item v') →
      Agree see ((item v).under (.item i)) ((item v').under (.item i')) := by
    intro v v' i i' hv
    unfold Agree
    rw [toOption_under, toOption_under]
    exact hv
  rw [list, list]
  apply agree_all
  rw [List.mapIdx_eq_zipIdx_map, List.mapIdx_eq_zipIdx_map]
  generalize 0 = start
  induction h generalizing start with
  | nil => exact .nil
  | cons hv _ ih =>
    rw [List.zipIdx_cons, List.zipIdx_cons]
    exact .cons (hunder _ _ _ _ hv) (ih _)

/-- Tables agree when their members do. -/
theorem agree_table {value : Json → Reading α} {see : Text → α → List γ} {ms ms' : List (Text × Json)}
    (h : List.Forall₂ (fun m m' => m.1 = m'.1 ∧ Agree (see m.1) (value m.2) (value m'.2)) ms ms') :
    Agree (fun entries => entries.flatMap fun e => see e.1 e.2) (table value (.object ms))
      (table value (.object ms')) := by
  rw [table, table]
  apply agree_all
  rw [List.forall₂_map_left_iff, List.forall₂_map_right_iff]
  refine h.imp ?_
  rintro ⟨name, v⟩ ⟨name', v'⟩ ⟨rfl, hv⟩
  apply Agree.map
  unfold Agree at hv ⊢
  rw [toOption_under, toOption_under]
  exact hv

/-! ### Members -/

/-- What a member that may be absent lists; nothing, when it is absent or null. -/
def listed (read : Json → Reading (List α)) (found : Option Json) : Option (List α) :=
  match Json.unlessNull found with
  | some v => (read v).toOption
  | none => some []

theorem listed_none (read : Json → Reading (List α)) : listed read none = some [] := rfl

theorem listed_null (read : Json → Reading (List α)) : listed read (some .null) = some [] := rfl

theorem toOption_possible (name : Text) (read : Json → Reading (List α)) (members : List (Text × Json)) :
    (possible name read members).toOption.map (·.getD []) = listed read (Entries.get? name members) := by
  rw [possible_eq, listed]
  cases Json.unlessNull (Entries.get? name members) with
  | none => rfl
  | some v =>
    simp only
    rw [toOption_under]
    cases read v <;> rfl

theorem toOption_required (name : Text) (read : Json → Reading α) (members : List (Text × Json)) :
    (required name read members).toOption =
      (Entries.get? name members).bind fun v => (read v).toOption := by
  unfold required
  cases Entries.get? name members with
  | none => rfl
  | some v => exact toOption_under _ _

/-- Two members that may be absent agree when they list the same. -/
theorem agree_possible {read : Json → Reading (List α)} {see : List α → β} {name name' : Text}
    {ms ms' : List (Text × Json)}
    (h : (listed read (Entries.get? name ms)).map see = (listed read (Entries.get? name' ms')).map see) :
    Agree (fun found => see (found.getD [])) (possible name read ms) (possible name' read ms') := by
  rw [← toOption_possible, ← toOption_possible, Option.map_map, Option.map_map] at h
  exact h

end Reading
end IntentLint
