import IntentLint.Problem
import IntentLint.Proofs.Json.Parts
import Mathlib.Data.List.Forall2

/-!
# `Proofs.Model.Readings` — how readings compose

A reading of several parts succeeds when every part does, with the values of the parts in their order; and its
problems are those of the parts, in their order, each behind the step to its part. So a reading is known by the
value it has (`r = .ok a`) and by its problems (`Reading.problems`), and both are said here for each way of
putting readings together. A reading that fails always says why (`Reading.Telling`), so it succeeds exactly
when it has no problems.
-/

namespace IntentLint
namespace Reading

variable {α β : Type}

/-! ## Values -/

theorem map_eq_ok {r : Reading α} {f : α → β} {b : β} : r.map f = .ok b ↔ ∃ a, r = .ok a ∧ f a = b := by
  cases r with
  | ok a => simp [Except.map]
  | error ps => simp [Except.map]

theorem under_eq_ok {r : Reading α} {step : Step} {a : α} : r.under step = .ok a ↔ r = .ok a := by
  cases r with
  | ok x => simp [under, Except.mapError]
  | error ps => simp [under, Except.mapError]

theorem both_eq_ok {a : Reading α} {b : Reading β} {p : α × β} :
    both a b = .ok p ↔ a = .ok p.1 ∧ b = .ok p.2 := by
  cases a with
  | ok x => cases b <;> simp [both, Prod.ext_iff]
  | error ps => cases b <;> simp [both]

theorem exists_map_iff {r : Reading α} {f : α → β} : (∃ b, r.map f = .ok b) ↔ ∃ a, r = .ok a := by
  cases r <;> simp [Except.map]

theorem exists_both_iff {a : Reading α} {b : Reading β} :
    (∃ p, both a b = .ok p) ↔ (∃ x, a = .ok x) ∧ ∃ y, b = .ok y := by
  cases a <;> cases b <;> simp [both]

/-- Readings one after the other succeed together, each with its own value. -/
theorem all_eq_ok {rs : List (Reading α)} {xs : List α} :
    all rs = .ok xs ↔ List.Forall₂ (fun r x => r = .ok x) rs xs := by
  induction rs generalizing xs with
  | nil => simp [all, eq_comm]
  | cons r rs ih =>
    rw [all, map_eq_ok, List.forall₂_cons_left_iff]
    simp only [both_eq_ok, ih, Prod.exists]
    constructor
    · rintro ⟨x, later, ⟨hr, hrs⟩, rfl⟩
      exact ⟨x, later, hr, hrs, rfl⟩
    · rintro ⟨x, later, hr, hrs, rfl⟩
      exact ⟨x, later, ⟨hr, hrs⟩, rfl⟩

/-- Readings one after the other succeed when each of them does. -/
theorem exists_all_iff {rs : List (Reading α)} : (∃ xs, all rs = .ok xs) ↔ ∀ r ∈ rs, ∃ x, r = .ok x := by
  induction rs with
  | nil => simp [all_eq_ok]
  | cons r rs ih =>
    rw [List.forall_mem_cons, ← ih]
    simp only [all_eq_ok, List.forall₂_cons_left_iff]
    constructor
    · rintro ⟨_, x, xs, hx, hxs, rfl⟩
      exact ⟨⟨x, hx⟩, xs, hxs⟩
    · rintro ⟨⟨x, hx⟩, xs, hxs⟩
      exact ⟨_, x, xs, hx, hxs, rfl⟩

theorem text_eq_ok {v : Json} {t : Text} : text v = .ok t ↔ v = .text t := by
  cases v <;> simp [text, refuse]

/-- A list is read item by item. -/
theorem list_eq_ok {item : Json → Reading α} {v : Json} {xs : List α} :
    list item v = .ok xs ↔ ∃ vs, v = .array vs ∧ List.Forall₂ (fun x a => item x = .ok a) vs xs := by
  cases v with
  | array vs =>
    -- the index of an item has no part in its value
    have hitems : List.Forall₂ (fun x a => item x = .ok a) (vs.zipIdx.map Prod.fst) xs ↔
        List.Forall₂ (fun (p : Json × Nat) a => item p.1 = .ok a) vs.zipIdx xs := List.forall₂_map_left_iff
    rw [List.zipIdx_map_fst] at hitems
    rw [list, all_eq_ok, List.mapIdx_eq_zipIdx_map, List.forall₂_map_left_iff]
    simp only [under_eq_ok, Json.array.injEq, exists_eq_left', hitems]
  | _ => simp [list, refuse]

/-- An object is read member by member, and the names stay. -/
theorem table_eq_ok {value : Json → Reading α} {v : Json} {entries : List (Text × α)} :
    table value v = .ok entries ↔
      ∃ members, v = .object members ∧
        List.Forall₂ (fun m e => m.1 = e.1 ∧ value m.2 = .ok e.2) members entries := by
  cases v with
  | object members =>
    have hmember : ∀ (m : Text × Json) (e : Text × α),
        (((value m.2).under (.member m.1)).map fun x => (m.1, x)) = .ok e ↔
          m.1 = e.1 ∧ value m.2 = .ok e.2 := by
      intro m e
      rw [map_eq_ok]
      constructor
      · rintro ⟨x, hx, rfl⟩
        exact ⟨rfl, under_eq_ok.mp hx⟩
      · rintro ⟨hname, hx⟩
        exact ⟨e.2, under_eq_ok.mpr hx, Prod.ext hname rfl⟩
    rw [table, all_eq_ok, List.forall₂_map_left_iff]
    simp only [hmember, Json.object.injEq, exists_eq_left']
  | _ => simp [table, refuse]

theorem required_eq_ok {name : Text} {read : Json → Reading α} {members : List (Text × Json)} {a : α} :
    required name read members = .ok a ↔ ∃ v ∈ Entries.get? name members, read v = .ok a := by
  unfold required
  cases h : Entries.get? name members with
  | some v => simp [under_eq_ok]
  | none => simp [under_eq_ok, refuse]

/-- A member that may be absent or null is read only when it is neither. -/
theorem possible_eq (name : Text) (read : Json → Reading α) (members : List (Text × Json)) :
    possible name read members =
      match Json.unlessNull (Entries.get? name members) with
      | some v => Reading.under (.member name) ((read v).map some)
      | none => .ok none := by
  unfold possible
  cases Entries.get? name members with
  | none => rfl
  | some v => cases v <;> rfl

theorem possible_eq_ok {name : Text} {read : Json → Reading α} {members : List (Text × Json)}
    {found : Option α} :
    possible name read members = .ok found ↔
      Option.Rel (fun v a => read v = .ok a) (Json.unlessNull (Entries.get? name members)) found := by
  rw [possible_eq]
  cases Json.unlessNull (Entries.get? name members) with
  | none => cases found <;> simp
  | some v => cases found <;> simp [under_eq_ok, map_eq_ok]

/-! ## Problems -/

/-- The problems of a reading; a reading with a value has none. -/
def problems : Reading α → List Problem
  | .ok _ => []
  | .error ps => ps

theorem problems_map (r : Reading α) (f : α → β) : problems (r.map f) = r.problems := by
  cases r <;> rfl

theorem problems_under (r : Reading α) (step : Step) :
    (r.under step).problems = r.problems.map (Problem.under step) := by
  cases r <;> rfl

theorem problems_both (a : Reading α) (b : Reading β) : (both a b).problems = a.problems ++ b.problems := by
  cases a <;> cases b <;> simp [both, problems]

theorem problems_all (rs : List (Reading α)) : (all rs).problems = rs.flatMap problems := by
  induction rs with
  | nil => rfl
  | cons r rs ih => rw [all, problems_map, problems_both, ih, List.flatMap_cons]

theorem problems_refuse (defect : Defect) : (refuse defect : Reading α).problems = [⟨[], defect⟩] := rfl

/-- The problems of a list are those of its items, behind their indices. -/
theorem problems_list (item : Json → Reading α) (vs : List Json) :
    (list item (.array vs)).problems =
      vs.zipIdx.flatMap fun p => (item p.1).problems.map (Problem.under (.item p.2)) := by
  rw [list, problems_all, List.mapIdx_eq_zipIdx_map, List.flatMap_map]
  simp only [problems_under]

/-- The problems of a table are those of its members, behind their names. -/
theorem problems_table (value : Json → Reading α) (members : List (Text × Json)) :
    (table value (.object members)).problems =
      members.flatMap fun m => (value m.2).problems.map (Problem.under (.member m.1)) := by
  rw [table, problems_all, List.flatMap_map]
  simp only [problems_map, problems_under]

theorem problems_required (name : Text) (read : Json → Reading α) (members : List (Text × Json)) :
    (required name read members).problems =
      (match Entries.get? name members with
        | some v => (read v).problems
        | none => [⟨[], .missing⟩]).map (Problem.under (.member name)) := by
  unfold required
  cases Entries.get? name members with
  | some v => rw [problems_under]
  | none => rw [problems_under, problems_refuse]

theorem problems_possible (name : Text) (read : Json → Reading α) (members : List (Text × Json)) :
    (possible name read members).problems =
      (Json.unlessNull (Entries.get? name members)).toList.flatMap fun v =>
        (read v).problems.map (Problem.under (.member name)) := by
  rw [possible_eq]
  cases Json.unlessNull (Entries.get? name members) with
  | some v => simp only [problems_under, problems_map, Option.toList_some, List.flatMap_singleton]
  | none => rfl

/-! ## Readings that say why they fail -/

/-- A reading that has a problem if it fails. -/
def Telling (r : Reading α) : Prop := r ≠ .error []

/-- A telling reading has a value exactly when it has no problems. -/
theorem Telling.problems_eq_nil_iff {r : Reading α} (h : r.Telling) :
    r.problems = [] ↔ ∃ a, r = .ok a := by
  cases r with
  | ok a => simp [problems]
  | error ps =>
    have hps : ps ≠ [] := fun hnil => h (by rw [hnil])
    simp [problems, hps]

theorem Telling.map {r : Reading α} (h : r.Telling) (f : α → β) : Telling (r.map f) := by
  cases r with
  | ok a => exact nofun
  | error ps =>
    intro heq
    cases heq
    exact h rfl

theorem Telling.under {r : Reading α} (h : r.Telling) (step : Step) : (r.under step).Telling := by
  cases r with
  | ok a => exact nofun
  | error ps =>
    intro heq
    have hps : ps.map (Problem.under step) = [] := Except.error.inj heq
    exact h (by rw [List.map_eq_nil_iff.mp hps])

theorem Telling.both {a : Reading α} {b : Reading β} (ha : a.Telling) (hb : b.Telling) :
    (both a b).Telling := by
  cases a with
  | ok x =>
    cases b with
    | ok y => exact nofun
    | error qs =>
      intro heq
      cases heq
      exact hb rfl
  | error ps =>
    have hps : ps ≠ [] := fun hnil => ha (by rw [hnil])
    cases b with
    | ok y =>
      intro heq
      exact hps (Except.error.inj heq)
    | error qs =>
      intro heq
      exact hps (List.append_eq_nil_iff.mp (Except.error.inj heq)).1

theorem telling_all {rs : List (Reading α)} (h : ∀ r ∈ rs, r.Telling) : (all rs).Telling := by
  induction rs with
  | nil => exact nofun
  | cons r rs ih =>
    have hfirst := h r List.mem_cons_self
    have hrest := ih fun q hq => h q (List.mem_cons_of_mem _ hq)
    exact (hfirst.both hrest).map _

theorem telling_refuse (defect : Defect) : (refuse defect : Reading α).Telling := by
  intro heq
  cases heq

theorem telling_text (v : Json) : (text v).Telling := by
  cases v with
  | text t => exact nofun
  | _ => exact telling_refuse _

theorem telling_list {item : Json → Reading α} (h : ∀ v, (item v).Telling) (v : Json) :
    (list item v).Telling := by
  cases v with
  | array vs =>
    refine telling_all fun r hr => ?_
    rw [List.mapIdx_eq_zipIdx_map] at hr
    obtain ⟨p, -, rfl⟩ := List.mem_map.mp hr
    exact (h p.1).under _
  | _ => exact telling_refuse _

theorem telling_table {value : Json → Reading α} (h : ∀ v, (value v).Telling) (v : Json) :
    (table value v).Telling := by
  cases v with
  | object members =>
    refine telling_all fun r hr => ?_
    obtain ⟨m, -, rfl⟩ := List.mem_map.mp hr
    exact ((h m.2).under _).map _
  | _ => exact telling_refuse _

theorem telling_required {read : Json → Reading α} (h : ∀ v, (read v).Telling) (name : Text)
    (members : List (Text × Json)) : (required name read members).Telling := by
  unfold required
  split
  · exact (h _).under _
  · exact (telling_refuse _).under _

theorem telling_possible {read : Json → Reading α} (h : ∀ v, (read v).Telling) (name : Text)
    (members : List (Text × Json)) : (possible name read members).Telling := by
  rw [possible_eq]
  split
  · exact ((h _).map _).under _
  · exact nofun

end Reading
end IntentLint
