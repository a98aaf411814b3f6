import IntentLint.Json.Decode
import IntentLint.Proofs.Entries

/-!
# `Proofs.Json.Names` — documents whose names are distinct

Where a text repeats a name in an object, decoding keeps one member under it. So in what a text writes no object,
at any depth, has two members of the same name (`decode_distinct`), and a member or an item is the only thing
that stands at its place.
-/

namespace IntentLint
namespace Json

/-- No object in the document has two members of the same name. -/
inductive Distinct : Json → Prop
  | null : Distinct .null
  | bool (value : Bool) : Distinct (.bool value)
  | number (value : Number) : Distinct (.number value)
  | text (value : Text) : Distinct (.text value)
  | array {vs : List Json} (items : ∀ v ∈ vs, Distinct v) : Distinct (.array vs)
  | object {members : List (Text × Json)} (names : (Entries.keys members).Nodup)
      (values : ∀ m ∈ members, Distinct m.2) : Distinct (.object members)

/-- What a scanner reads has a property, if it reads anything. -/
def Reads {α : Type} (property : α → Prop) : Scan α → Prop
  | .ok (a, _) => property a
  | .error _ => True

variable {α β : Type}

theorem Reads.map {property : α → Prop} {property' : β → Prop} {r : Scan α} {f : α × Text → β × Text}
    (hf : ∀ p, property p.1 → property' (f p).1) (h : Reads property r) : Reads property' (r.map f) := by
  cases r with
  | ok p => exact hf p h
  | error stop => trivial

theorem Distinct.ofList {members : List (Text × Json)} (h : ∀ m ∈ members, m.2.Distinct) :
    (Json.object (Entries.ofList members)).Distinct := by
  refine .object ?_ fun m hm => h m (Entries.mem_of_mem_ofList hm)
  rw [Entries.keys_ofList]
  exact Entries.nodup_eraseDups _

variable {bound : Nat}

theorem reads_scanWord {t : Text} {found : Json × Text} (h : scanWord? t = some found) :
    found.1.Distinct := by
  have hwords : ∀ p ∈ words, p.2.Distinct := by
    simp only [words, List.forall_mem_cons]
    exact ⟨.null, .bool _, .bool _, .number _, .number _, .number _, by simp⟩
  obtain ⟨⟨word, value⟩, hmem, hfound⟩ := List.exists_of_findSome?_eq_some h
  obtain ⟨rest, -, rfl⟩ := Option.map_eq_some_iff.mp hfound
  exact hwords _ hmem

theorem reads_scanValue_succ (hitems : ∀ t, Reads (∀ v ∈ ·, v.Distinct) (scanItems bound t))
    (hmembers : ∀ t, Reads (∀ m ∈ ·, m.2.Distinct) (scanMembers bound t)) (t : Text) :
    Reads Distinct (scanValue (bound + 1) t) := by
  have hread : ∀ {γ : Type} (r : Scan γ), Reads (fun _ => True) r := by
    intro γ r
    cases r <;> trivial
  cases t with
  | nil => rw [scanValue]; trivial
  | cons c rest =>
    rw [scanValue]
    split
    · exact (hread _).map fun p _ => .text p.1
    · split
      · split
        · exact .object List.nodup_nil fun m hm => absurd hm List.not_mem_nil
        · exact (hmembers _).map fun p hp => .ofList hp
      · split
        · split
          · exact .array fun v hv => absurd hv List.not_mem_nil
          · exact (hitems _).map fun p hp => .array hp
        · split
          · next found hfound => exact reads_scanWord hfound
          · exact (hread _).map fun p _ => .number p.1

theorem reads_scanItems_succ (hvalue : ∀ t, Reads Distinct (scanValue bound t))
    (hitems : ∀ t, Reads (∀ v ∈ ·, v.Distinct) (scanItems bound t)) (t : Text) :
    Reads (∀ v ∈ ·, v.Distinct) (scanItems (bound + 1) t) := by
  have hitem := hvalue t
  rw [scanItems]
  cases h : scanValue bound t with
  | error stop => trivial
  | ok p =>
    rw [h] at hitem
    simp only
    split
    · exact List.forall_mem_singleton.mpr hitem
    · exact (hitems _).map fun q hq => List.forall_mem_cons.mpr ⟨hitem, hq⟩
    · trivial

theorem reads_scanMembers_succ (hvalue : ∀ t, Reads Distinct (scanValue bound t))
    (hmembers : ∀ t, Reads (∀ m ∈ ·, m.2.Distinct) (scanMembers bound t)) (t : Text) :
    Reads (∀ m ∈ ·, m.2.Distinct) (scanMembers (bound + 1) t) := by
  cases t with
  | nil => rw [scanMembers]; trivial
  | cons c t =>
    rw [scanMembers]
    split
    · cases scanText (c :: t) t with
      | error stop => trivial
      | ok p =>
        simp only
        cases after? (CodePoint.ofChar ':') (skipSpace p.2) with
        | none => trivial
        | some colon =>
          have hread := hvalue (skipSpace colon)
          simp only
          cases hv : scanValue bound (skipSpace colon) with
          | error stop => trivial
          | ok q =>
            rw [hv] at hread
            simp only
            split
            · exact List.forall_mem_singleton.mpr hread
            · exact (hmembers _).map fun s hs => List.forall_mem_cons.mpr ⟨hread, hs⟩
            · trivial
    · trivial

/-- Whatever is scanned has distinct names, by induction on the bound of nested calls. -/
theorem reads_scan (bound : Nat) :
    (∀ t, Reads Distinct (scanValue bound t)) ∧
      (∀ t, Reads (∀ v ∈ ·, v.Distinct) (scanItems bound t)) ∧
      ∀ t, Reads (∀ m ∈ ·, m.2.Distinct) (scanMembers bound t) := by
  induction bound with
  | zero =>
    refine ⟨fun t => ?_, fun t => ?_, fun t => ?_⟩
    · rw [scanValue]; trivial
    · rw [scanItems]; trivial
    · rw [scanMembers]; trivial
  | succ bound ih =>
    obtain ⟨hvalue, hitems, hmembers⟩ := ih
    exact ⟨reads_scanValue_succ hitems hmembers, reads_scanItems_succ hvalue hitems,
      reads_scanMembers_succ hvalue hmembers⟩

/-- **What a text writes has distinct names.** -/
theorem decode_distinct {t : Text} {v : Json} (h : decode t = .ok v) : v.Distinct := by
  have hdocument : scanDocument t = .ok v := by
    unfold decode at h
    cases hs : scanDocument t with
    | ok w =>
      rw [hs] at h
      cases h
      rfl
    | error stop =>
      rw [hs] at h
      cases h
  have hvalue := (reads_scan (2 * t.length + 2)).1 (skipSpace t)
  unfold scanDocument at hdocument
  split at hdocument
  · cases hdocument
  · split at hdocument
    · cases hdocument
    · next w rest hs =>
      rw [hs] at hvalue
      split at hdocument
      · cases hdocument
        exact hvalue
      · cases hdocument

end Json
end IntentLint
