import IntentLint.Entries
import Mathlib.Data.List.Flatten
import Mathlib.Data.List.Induction

/-!
# `Proofs.Entries` — look-ups in entries

What a look-up finds is there, and it finds something under exactly the keys that are there. Entries made of a
list of pairs have the keys of the list, each once, and hold nothing that is not in the list; so when the
value in a pair depends on its key alone, every look-up gives that value.

The keys stand in the order in which they first came up (`keys_ofList`), and entries whose keys are distinct
are what their keys and look-ups say (`eq_map_get?`). A list with repeated keys and the list of its keys are
mapped to the same exactly when the repeated ones are mapped to nothing (`flatMap_eraseDups_eq_iff`).
-/

namespace IntentLint
namespace Entries

variable {κ : Type} {α : Type} [DecidableEq κ]

theorem get?_cons_self (key : κ) (value : α) (rest : Entries κ α) :
    get? key ((key, value) :: rest) = some value := by
  simp [get?]

theorem get?_cons_ne {key other : κ} (h : key ≠ other) (value : α) (rest : Entries κ α) :
    get? other ((key, value) :: rest) = get? other rest := by
  simp [get?, h]

/-- A look-up finds nothing exactly under the keys that are not there. -/
theorem get?_eq_none_iff {key : κ} {entries : Entries κ α} :
    get? key entries = none ↔ key ∉ keys entries := by
  induction entries with
  | nil => simp [get?]
  | cons e rest ih =>
    obtain ⟨k, v⟩ := e
    by_cases h : k = key
    · subst h
      simp [get?_cons_self]
    · rw [get?_cons_ne h, ih, keys_cons, List.mem_cons, not_or]
      exact ⟨fun hr => ⟨Ne.symm h, hr⟩, fun hr => hr.2⟩

theorem get?_append (key : κ) (before after : Entries κ α) :
    get? key (before ++ after) = (get? key before).or (get? key after) := by
  induction before with
  | nil => rfl
  | cons e rest ih =>
    obtain ⟨k, v⟩ := e
    rw [List.cons_append, get?, get?]
    split
    · rfl
    · exact ih

/-- What stands under another key is passed over. -/
theorem get?_append_cons_ne {key other : κ} (h : other ≠ key) (before after : Entries κ α) (value : α) :
    get? key (before ++ (other, value) :: after) = get? key (before ++ after) := by
  rw [get?_append, get?_append, get?_cons_ne h]

theorem get?_append_cons_self {key : κ} {before : Entries κ α} (h : key ∉ keys before)
    (after : Entries κ α) (value : α) : get? key (before ++ (key, value) :: after) = some value := by
  rw [get?_append, get?_eq_none_iff.mpr h, get?_cons_self, Option.none_or]

/-- A look-up finds an entry. -/
theorem mem_of_get? {key : κ} {value : α} {entries : Entries κ α} (h : get? key entries = some value) :
    (key, value) ∈ entries := by
  induction entries with
  | nil => cases h
  | cons e rest ih =>
    obtain ⟨k, v⟩ := e
    by_cases hk : k = key
    · subst hk
      rw [get?_cons_self] at h
      cases h
      exact List.mem_cons_self
    · rw [get?_cons_ne hk] at h
      exact List.mem_cons_of_mem _ (ih h)

/-- Under distinct keys a look-up finds every entry. -/
theorem get?_of_mem {key : κ} {value : α} {entries : Entries κ α} (hnodup : (keys entries).Nodup)
    (h : (key, value) ∈ entries) : get? key entries = some value := by
  induction entries with
  | nil => cases h
  | cons e rest ih =>
    obtain ⟨k, v⟩ := e
    rw [keys_cons, List.nodup_cons] at hnodup
    rcases List.mem_cons.mp h with hfirst | hrest
    · cases hfirst
      exact get?_cons_self key value rest
    · have hne : k ≠ key := by
        rintro rfl
        exact hnodup.1 (List.mem_map_of_mem hrest)
      rw [get?_cons_ne hne]
      exact ih hnodup.2 hrest

theorem exists_get?_of_mem_keys {key : κ} {entries : Entries κ α} (h : key ∈ keys entries) :
    ∃ value, get? key entries = some value := by
  cases hg : get? key entries with
  | some value => exact ⟨value, rfl⟩
  | none => exact absurd h (get?_eq_none_iff.mp hg)

/-- To look a value up among mapped ones is to map what is found. -/
theorem get?_map {β : Type} (f : α → β) (key : κ) (entries : Entries κ α) :
    get? key (entries.map fun e => (e.1, f e.2)) = (get? key entries).map f := by
  induction entries with
  | nil => rfl
  | cons e rest ih =>
    obtain ⟨k, v⟩ := e
    rw [List.map_cons]
    by_cases hk : k = key
    · subst hk
      rw [get?_cons_self, get?_cons_self, Option.map_some]
    · rw [get?_cons_ne hk, get?_cons_ne hk, ih]

/-! ## Putting values one after the other -/

theorem mem_put {e : κ × α} {key : κ} {value : α} {entries : Entries κ α}
    (h : e ∈ put key value entries) : e = (key, value) ∨ e ∈ entries := by
  induction entries with
  | nil => exact Or.inl (List.mem_singleton.mp h)
  | cons f rest ih =>
    obtain ⟨k, v⟩ := f
    unfold put at h
    -- the value goes where its key stands, and else further down
    split at h
    · next hk =>
      rcases List.mem_cons.mp h with he | he
      · exact Or.inl (hk ▸ he)
      · exact Or.inr (List.mem_cons_of_mem _ he)
    · rcases List.mem_cons.mp h with he | he
      · exact Or.inr (he ▸ List.mem_cons_self)
      · exact (ih he).imp id (List.mem_cons_of_mem _)

theorem putAll_cons (entries : Entries κ α) (p : κ × α) (more : List (κ × α)) :
    putAll entries (p :: more) = putAll (put p.1 p.2 entries) more := rfl

theorem mem_putAll {e : κ × α} {entries : Entries κ α} {more : List (κ × α)}
    (h : e ∈ putAll entries more) : e ∈ entries ∨ e ∈ more := by
  induction more generalizing entries with
  | nil => exact Or.inl h
  | cons p rest ih =>
    rw [putAll_cons] at h
    rcases ih h with he | he
    · rcases mem_put he with he | he
      · exact Or.inr (he ▸ List.mem_cons_self)
      · exact Or.inl he
    · exact Or.inr (List.mem_cons_of_mem _ he)

/-! ## The order of keys -/

section Order

variable [BEq κ] [LawfulBEq κ]

omit [DecidableEq κ] in
/-- An item at the end of a list is new there, or changes nothing. -/
theorem eraseDups_concat (keys : List κ) (key : κ) :
    (keys ++ [key]).eraseDups = if key ∈ keys then keys.eraseDups else keys.eraseDups ++ [key] := by
  rw [List.eraseDups_append]
  by_cases h : key ∈ keys <;> simp [List.removeAll, List.eraseDups_cons, h]

omit [DecidableEq κ] in
theorem nodup_eraseDups (keys : List κ) : keys.eraseDups.Nodup := by
  induction keys using List.reverseRecOn with
  | nil => simp
  | append_singleton keys key ih =>
    rw [eraseDups_concat]
    split
    · exact ih
    · next hnew =>
      have hlast : key ∉ keys.eraseDups := fun hk => hnew (List.mem_eraseDups.mp hk)
      rw [List.nodup_append]
      refine ⟨ih, by simp, ?_⟩
      intro k hk other hother he
      rw [List.mem_singleton] at hother
      exact hlast (hother ▸ he ▸ hk)

/-- If the keys are the items of a list, in the order in which they first come up, putting a value adds its key
to the list. -/
theorem keys_put_of_eraseDups {entries : Entries κ α} {items : List κ}
    (h : keys entries = items.eraseDups) (key : κ) (value : α) :
    keys (put key value entries) = (items ++ [key]).eraseDups := by
  have hmem : key ∈ keys entries ↔ key ∈ items := by rw [h, List.mem_eraseDups]
  rw [eraseDups_concat]
  by_cases hkey : key ∈ items
  · rw [keys_put_of_mem (hmem.mpr hkey), if_pos hkey, h]
  · rw [keys_put_of_not_mem (fun hk => hkey (hmem.mp hk)), if_neg hkey, h]

/-- **The keys of a list's entries stand in the order in which the list first has them.** -/
theorem keys_ofList (pairs : List (κ × α)) : keys (ofList pairs) = (pairs.map (·.1)).eraseDups := by
  induction pairs using List.reverseRecOn with
  | nil => rfl
  | append_singleton pairs p ih =>
    have hput : ofList (pairs ++ [p]) = put p.1 p.2 (ofList pairs) := by
      simp only [ofList, putAll, List.foldl_append, List.foldl_cons, List.foldl_nil]
    rw [hput, List.map_append]
    exact keys_put_of_eraseDups ih p.1 p.2

omit [DecidableEq κ] in
theorem eraseDups_sublist (items : List κ) : items.eraseDups.Sublist items := by
  induction items using List.reverseRecOn with
  | nil => simp
  | append_singleton items item ih =>
    rw [eraseDups_concat]
    split
    · exact ih.trans (List.sublist_append_left items [item])
    · exact ih.append (List.Sublist.refl [item])

omit [DecidableEq κ] in
/-- An item at the end of a list makes that item a repeated one, if it stands there already, and no other. -/
theorem two_le_count_concat {items : List κ} {last item : κ} :
    2 ≤ (items ++ [last]).count item ↔ 2 ≤ items.count item ∨ item = last ∧ last ∈ items := by
  rw [List.count_append]
  by_cases he : item = last
  · subst he
    rw [List.count_singleton_self, ← List.count_pos_iff, eq_self, true_and]
    omega
  · have hnone : [last].count item = 0 := List.count_eq_zero_of_not_mem fun h => he (List.mem_singleton.mp h)
    simp [hnone, he]

omit [DecidableEq κ] in
/-- **To leave repetitions out changes nothing exactly when the repeated items are mapped to nothing.** -/
theorem flatMap_eraseDups_eq_iff {β : Type} {items : List κ} {f : κ → List β} :
    items.flatMap f = items.eraseDups.flatMap f ↔ ∀ item, 2 ≤ items.count item → f item = [] := by
  induction items using List.reverseRecOn with
  | nil => simp
  | append_singleton items last ih =>
    have hcounts : (∀ item, 2 ≤ (items ++ [last]).count item → f item = []) ↔
        (last ∈ items → f last = []) ∧ ∀ item, 2 ≤ items.count item → f item = [] := by
      simp only [two_le_count_concat]
      constructor
      · intro h
        exact ⟨fun hlast => h last (Or.inr ⟨rfl, hlast⟩), fun item hitem => h item (Or.inl hitem)⟩
      · rintro ⟨hlast, hrest⟩ item (hitem | ⟨rfl, hmem⟩)
        · exact hrest item hitem
        · exact hlast hmem
    rw [hcounts, ← ih, eraseDups_concat, List.flatMap_append, List.flatMap_singleton]
    by_cases hlast : last ∈ items
    · rw [if_pos hlast]
      constructor
      · intro h
        -- without its repetitions a list is not mapped to more, so nothing can come of the last item
        have hle := ((eraseDups_sublist items).flatMap f).length_le
        have hlength := congrArg List.length h
        rw [List.length_append] at hlength
        have hnil : f last = [] := List.eq_nil_of_length_eq_zero (by omega)
        rw [hnil, List.append_nil] at h
        exact ⟨fun _ => hnil, h⟩
      · rintro ⟨hnil, h⟩
        rw [hnil hlast, List.append_nil, h]
    · rw [if_neg hlast, List.flatMap_append, List.flatMap_singleton, List.append_left_inj]
      exact ⟨fun h => ⟨fun hmem => absurd hmem hlast, h⟩, fun h => h.2⟩

end Order

/-! ## Entries of a list -/

/-- Entries made of a list hold nothing else. -/
theorem mem_of_mem_ofList {e : κ × α} {pairs : List (κ × α)} (h : e ∈ ofList pairs) : e ∈ pairs :=
  (mem_putAll h).elim (fun he => absurd he List.not_mem_nil) id

theorem put_of_not_mem {key : κ} {entries : Entries κ α} (h : key ∉ keys entries) (value : α) :
    put key value entries = entries ++ [(key, value)] := by
  induction entries with
  | nil => rfl
  | cons e rest ih =>
    obtain ⟨k, v⟩ := e
    simp only [keys_cons, List.mem_cons, not_or] at h
    rw [put, if_neg (Ne.symm h.1), ih h.2, List.cons_append]

theorem putAll_of_nodup {entries : Entries κ α} {more : List (κ × α)} (h : (keys (entries ++ more)).Nodup) :
    putAll entries more = entries ++ more := by
  induction more generalizing entries with
  | nil => rw [List.append_nil]; rfl
  | cons p more ih =>
    obtain ⟨key, value⟩ := p
    have hkey : key ∉ keys entries := by
      intro hmem
      rw [keys, List.map_append, List.map_cons] at h
      exact (List.nodup_append.mp h).2.2 key hmem key List.mem_cons_self rfl
    rw [putAll_cons, put_of_not_mem hkey, ih]
    · rw [List.append_assoc, List.singleton_append]
    · rw [List.append_assoc, List.singleton_append]
      exact h

/-- Values under distinct keys stay as they are. -/
theorem ofList_of_nodup {pairs : List (κ × α)} (h : (keys pairs).Nodup) : ofList pairs = pairs :=
  putAll_of_nodup h

/-- **A key of the list is found, with a value that the list has under it.** -/
theorem exists_get?_ofList {key : κ} {pairs : List (κ × α)} (h : key ∈ pairs.map (·.1)) :
    ∃ value, get? key (ofList pairs) = some value ∧ (key, value) ∈ pairs := by
  have hkey : key ∈ keys (ofList pairs) := by
    rw [keys_ofList, List.mem_eraseDups]
    exact h
  obtain ⟨value, hv⟩ := exists_get?_of_mem_keys hkey
  exact ⟨value, hv, mem_of_mem_ofList (mem_of_get? hv)⟩

/-- **Entries with distinct keys are what their keys and look-ups say.** -/
theorem eq_map_get? {entries : Entries κ α} (h : (keys entries).Nodup) (absent : α) :
    entries = (keys entries).map fun key => (key, (get? key entries).getD absent) := by
  induction entries with
  | nil => rfl
  | cons e rest ih =>
    obtain ⟨k, v⟩ := e
    rw [keys_cons, List.nodup_cons] at h
    obtain ⟨hk, hrest⟩ := h
    -- below the first entry its key does not come up again, so the look-ups there are those of the rest
    have hsame : (keys rest).map (fun key => (key, (get? key ((k, v) :: rest)).getD absent)) = rest := by
      refine Eq.trans (List.map_congr_left fun key hkey => ?_) (ih hrest).symm
      have hne : k ≠ key := by
        rintro rfl
        exact hk hkey
      rw [get?_cons_ne hne]
    rw [keys_cons, List.map_cons, hsame, get?_cons_self, Option.getD_some]

end Entries
end IntentLint
