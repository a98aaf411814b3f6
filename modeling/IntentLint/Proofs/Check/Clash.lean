import IntentLint.Check.Duplicate
import IntentLint.Proofs.Entries
import Mathlib.Data.List.Chain
import Mathlib.Data.List.Forall2
import Mathlib.Data.List.Perm.Subperm
import Mathlib.Data.List.Zip

/-!
# `Proofs.Check.Clash` — which uses clash, and how many

A list of uses has no clash exactly when its keys are pairwise distinct. The record of owners is generalised:
after some owners, a use clashes with them or with an earlier use of the list.

A use clashes exactly where an earlier one has the same key, and then with the latest of those
(`forall₂_clashes`): the record that the uses of a prefix leave behind holds the owner of the latest use of each
key (`get?_ownersOf`). So the clashes of one key go through its uses from each to the next (`filter_clashes`).

Which owner a use clashes with depends on the order of the uses, but how often a key is among the clashes does
not: once less than among the uses (`count_clashes`). So the clashes of a list in another order have the same
keys, and a list with fewer uses has no more clashes.
-/

namespace IntentLint

variable {α : Type}

/-- After some owners nothing clashes exactly when the keys are distinct and none of them has an owner. -/
theorem clashesAfter_eq_nil_iff {key owner : α → Text} {owners : List (Text × Text)} {uses : List α} :
    clashesAfter key owner owners uses = [] ↔
      (uses.map key).Nodup ∧ ∀ use ∈ uses, key use ∉ Entries.keys owners := by
  induction uses generalizing owners with
  | nil => simp [clashesAfter]
  | cons use rest ih =>
    unfold clashesAfter
    cases hg : Entries.get? (key use) owners with
    | some previous =>
      have hmem : key use ∈ Entries.keys owners := List.mem_map_of_mem (Entries.mem_of_get? hg)
      simp [hmem]
    | none =>
      have hnew : key use ∉ Entries.keys owners := Entries.get?_eq_none_iff.mp hg
      simp only [ih, Entries.keys_cons, List.mem_cons, not_or, List.map_cons, List.nodup_cons,
        List.mem_map, not_exists, not_and]
      constructor
      · rintro ⟨hnodup, hrest⟩
        refine ⟨⟨fun u hu => (hrest u hu).1, hnodup⟩, ?_⟩
        rintro u (rfl | hu)
        · exact hnew
        · exact (hrest u hu).2
      · rintro ⟨⟨hfirst, hnodup⟩, hold⟩
        exact ⟨hnodup, fun u hu => ⟨hfirst u hu, hold u (Or.inr hu)⟩⟩

/-- **Nothing clashes exactly when the keys are pairwise distinct.** -/
theorem clashes_eq_nil_iff {key owner : α → Text} {uses : List α} :
    clashes key owner uses = [] ↔ (uses.map key).Nodup := by
  unfold clashes
  rw [clashesAfter_eq_nil_iff]
  simp

/-- A clash is one of a use, with an owner from before or with the owner of a use. -/
theorem of_mem_clashesAfter {key owner : α → Text} {owners : List (Text × Text)} {uses : List α}
    {clash : α × Text} (h : clash ∈ clashesAfter key owner owners uses) :
    clash.1 ∈ uses ∧ (clash.2 ∈ Entries.values owners ∨ ∃ use ∈ uses, owner use = clash.2) := by
  induction uses generalizing owners with
  | nil => cases h
  | cons use rest ih =>
    have hlater : clash ∈ clashesAfter key owner ((key use, owner use) :: owners) rest →
        clash.1 ∈ use :: rest ∧ (clash.2 ∈ Entries.values owners ∨ ∃ u ∈ use :: rest, owner u = clash.2) := by
      intro hclash
      obtain ⟨hmem, howner⟩ := ih hclash
      refine ⟨List.mem_cons_of_mem _ hmem, ?_⟩
      rcases howner with hbefore | ⟨u, hu, hsame⟩
      · -- the owners from before have become one more, that of the first use
        rcases List.mem_cons.mp hbefore with hfirst | hbefore
        · exact Or.inr ⟨use, List.mem_cons_self, hfirst.symm⟩
        · exact Or.inl hbefore
      · exact Or.inr ⟨u, List.mem_cons_of_mem _ hu, hsame⟩
    unfold clashesAfter at h
    cases hg : Entries.get? (key use) owners with
    | some previous =>
      simp only [hg] at h
      rcases List.mem_cons.mp h with rfl | hclash
      · exact ⟨List.mem_cons_self, Or.inl (List.mem_map_of_mem (Entries.mem_of_get? hg))⟩
      · exact hlater hclash
    | none =>
      simp only [hg] at h
      exact hlater h

theorem of_mem_clashes {key owner : α → Text} {uses : List α} {clash : α × Text}
    (h : clash ∈ clashes key owner uses) : clash.1 ∈ uses ∧ ∃ use ∈ uses, owner use = clash.2 := by
  obtain ⟨hmem, howner⟩ := of_mem_clashesAfter h
  exact ⟨hmem, howner.resolve_left List.not_mem_nil⟩

/-! ## Uses under another name -/

/-- Uses that come from other items clash as those items do, with the keys and owners they get. -/
theorem clashesAfter_map {β : Type} (f : β → α) (key owner : α → Text) (owners : List (Text × Text))
    (items : List β) :
    clashesAfter key owner owners (items.map f) =
      (clashesAfter (key ∘ f) (owner ∘ f) owners items).map fun clash => (f clash.1, clash.2) := by
  induction items generalizing owners with
  | nil => rfl
  | cons item rest ih =>
    simp only [List.map_cons, clashesAfter, Function.comp_apply, ih]
    cases Entries.get? (key (f item)) owners <;> rfl

theorem clashes_map {β : Type} (f : β → α) (key owner : α → Text) (items : List β) :
    clashes key owner (items.map f) =
      (clashes (key ∘ f) (owner ∘ f) items).map fun clash => (f clash.1, clash.2) :=
  clashesAfter_map f key owner [] items

/-! ## How many uses clash -/

/-- After some owners, the uses of a key clash, all but the first one if the key has no owner yet. -/
theorem count_clashesAfter (key owner : α → Text) (owners : List (Text × Text)) (uses : List α) (k : Text) :
    ((clashesAfter key owner owners uses).map fun clash => key clash.1).count k =
      (uses.map key).count k - if k ∈ Entries.keys owners then 0 else 1 := by
  induction uses generalizing owners with
  | nil => simp [clashesAfter]
  | cons use rest ih =>
    have hlater := ih ((key use, owner use) :: owners)
    simp only [Entries.keys_cons, List.mem_cons] at hlater
    unfold clashesAfter
    cases hg : Entries.get? (key use) owners with
    | some previous =>
      have howned : key use ∈ Entries.keys owners := List.mem_map_of_mem (Entries.mem_of_get? hg)
      simp only [List.map_cons, List.count_cons, hlater]
      by_cases hk : key use = k
      · subst hk
        simp [howned]
      · simp [hk, Ne.symm hk]
    | none =>
      have hnew : key use ∉ Entries.keys owners := Entries.get?_eq_none_iff.mp hg
      simp only [List.map_cons, List.count_cons, hlater]
      by_cases hk : key use = k
      · subst hk
        simp [hnew]
      · simp [hk, Ne.symm hk]

/-- **The uses of a key clash, all but the first one.** -/
theorem count_clashes (key owner : α → Text) (uses : List α) (k : Text) :
    ((clashes key owner uses).map fun clash => key clash.1).count k = (uses.map key).count k - 1 := by
  unfold clashes
  rw [count_clashesAfter]
  simp

/-- The keys of the uses that clash and the distinct keys together are the keys of all uses. -/
theorem clashes_append_eraseDups_perm (key owner : α → Text) (uses : List α) :
    (((clashes key owner uses).map fun clash => key clash.1) ++ (uses.map key).eraseDups).Perm
      (uses.map key) := by
  rw [List.perm_iff_count]
  intro k
  have hdistinct : (uses.map key).eraseDups.count k = if k ∈ uses.map key then 1 else 0 := by
    simp only [(Entries.nodup_eraseDups _).count, List.mem_eraseDups]
  rw [List.count_append, count_clashes, hdistinct]
  split
  · next h =>
    have := List.count_pos_iff.mpr h
    omega
  · next h =>
    rw [List.count_eq_zero_of_not_mem h]

/-- **There are as many clashes as there are uses, less the distinct keys.** -/
theorem length_clashes_add (key owner : α → Text) (uses : List α) :
    (clashes key owner uses).length + (uses.map key).eraseDups.length = uses.length := by
  have h := (clashes_append_eraseDups_perm key owner uses).length_eq
  rw [List.length_append, List.length_map, List.length_map] at h
  exact h

/-- The clashes of uses in another order have the same keys. -/
theorem clashes_perm (key owner : α → Text) {uses uses' : List α} (h : uses'.Perm uses) :
    ((clashes key owner uses').map fun clash => key clash.1).Perm
      ((clashes key owner uses).map fun clash => key clash.1) := by
  rw [List.perm_iff_count]
  intro k
  rw [count_clashes, count_clashes, (h.map key).count_eq k]

/-- Fewer uses have no more clashes. -/
theorem length_clashes_le (key owner : α → Text) {uses uses' : List α} (h : uses'.Sublist uses) :
    (clashes key owner uses').length ≤ (clashes key owner uses).length := by
  have hkeys : ((clashes key owner uses').map fun clash => key clash.1).Subperm
      ((clashes key owner uses).map fun clash => key clash.1) := by
    rw [List.subperm_ext_iff]
    intro k _
    rw [count_clashes, count_clashes]
    have := (h.map key).count_le k
    omega
  simpa using hkeys.length_le

/-! ## Which use a use clashes with -/

/-- The latest of some uses that have a key. -/
def LatestWith (key : α → Text) (k : Text) (uses : List α) (use : α) : Prop :=
  ∃ before after, uses = before ++ use :: after ∧ key use = k ∧ k ∉ after.map key

/-- The uses whose key an earlier one has, with the places at which they stand. -/
def repeats (key : α → Text) (uses : List α) : List (α × Nat) :=
  uses.zipIdx.filter fun use => ((uses.take use.2).map key).contains (key use.1)

/-- The record of owners that some uses leave behind. -/
def ownersOf (key owner : α → Text) (uses : List α) : List (Text × Text) :=
  uses.reverse.map fun use => (key use, owner use)

theorem ownersOf_concat (key owner : α → Text) (uses : List α) (use : α) :
    ownersOf key owner (uses ++ [use]) = (key use, owner use) :: ownersOf key owner uses := by
  simp [ownersOf]

theorem latestWith_concat {key : α → Text} {uses : List α} {last use : α} {k : Text} :
    LatestWith key k (uses ++ [last]) use ↔
      key last = k ∧ use = last ∨ key last ≠ k ∧ LatestWith key k uses use := by
  constructor
  · rintro ⟨before, after, hsplit, hkey, hafter⟩
    -- the latest use is the last one, or the last one stands behind it and has another key
    rcases List.eq_nil_or_concat' after with rfl | ⟨between, final, rfl⟩
    · obtain ⟨-, hlast⟩ := List.append_inj' hsplit rfl
      cases hlast
      exact Or.inl ⟨hkey, rfl⟩
    · rw [← List.cons_append, ← List.append_assoc] at hsplit
      obtain ⟨rfl, hlast⟩ := List.append_inj' hsplit rfl
      cases hlast
      simp only [List.map_append, List.mem_append, List.map_singleton, List.mem_singleton, not_or] at hafter
      exact Or.inr ⟨Ne.symm hafter.2, before, between, rfl, hkey, hafter.1⟩
  · rintro (⟨hkey, rfl⟩ | ⟨hne, before, after, rfl, hkey, hafter⟩)
    · exact ⟨uses, [], rfl, hkey, List.not_mem_nil⟩
    · refine ⟨before, after ++ [last], by simp, hkey, ?_⟩
      simp only [List.map_append, List.mem_append, List.map_singleton, List.mem_singleton, not_or]
      exact ⟨hafter, Ne.symm hne⟩

/-- **The record of owners holds the owner of the latest use of a key.** -/
theorem get?_ownersOf {key owner : α → Text} {uses : List α} {k name : Text} :
    Entries.get? k (ownersOf key owner uses) = some name ↔
      ∃ use, LatestWith key k uses use ∧ owner use = name := by
  induction uses using List.reverseRecOn with
  | nil => simp [ownersOf, Entries.get?, LatestWith]
  | append_singleton uses last ih =>
    rw [ownersOf_concat]
    by_cases h : key last = k
    · simp [latestWith_concat, h, Entries.get?_cons_self]
    · simp [latestWith_concat, h, Entries.get?_cons_ne h, ih]

theorem mem_keys_ownersOf {key owner : α → Text} {uses : List α} {k : Text} :
    k ∈ Entries.keys (ownersOf key owner uses) ↔ k ∈ uses.map key := by
  simp [ownersOf, Entries.keys]

/-- Behind the uses of a prefix, the clashes are those of the later uses whose key an earlier use has. -/
theorem forall₂_clashesAfter (key owner : α → Text) (before uses : List α) :
    List.Forall₂
      (fun use clash => clash.1 = use.1 ∧ ∃ earlier,
        LatestWith key (key use.1) ((before ++ uses).take use.2) earlier ∧ clash.2 = owner earlier)
      ((uses.zipIdx before.length).filter fun use => (((before ++ uses).take use.2).map key).contains (key use.1))
      (clashesAfter key owner (ownersOf key owner before) uses) := by
  induction uses generalizing before with
  | nil => exact List.Forall₂.nil
  | cons use rest ih =>
    -- the first use moves to the prefix, and takes over its key in the record
    have hlater := ih (before ++ [use])
    rw [ownersOf_concat, List.length_append, List.length_singleton, List.append_assoc,
      List.singleton_append] at hlater
    have hfront : (before ++ use :: rest).take before.length = before := List.take_left
    unfold clashesAfter
    rw [List.zipIdx_cons]
    cases hg : Entries.get? (key use) (ownersOf key owner before) with
    | some previous =>
      obtain ⟨earlier, hlatest, hprevious⟩ := get?_ownersOf.mp hg
      have hmem : key use ∈ before.map key :=
        mem_keys_ownersOf.mp (List.mem_map_of_mem (Entries.mem_of_get? hg))
      rw [List.filter_cons_of_pos (by simpa [hfront] using hmem)]
      refine List.Forall₂.cons ⟨rfl, earlier, ?_, hprevious.symm⟩ hlater
      rw [hfront]
      exact hlatest
    | none =>
      have hnew : key use ∉ before.map key :=
        fun hmem => Entries.get?_eq_none_iff.mp hg (mem_keys_ownersOf.mpr hmem)
      rw [List.filter_cons_of_neg (by simpa [hfront] using hnew)]
      exact hlater

/-- **A use clashes exactly where an earlier one has the same key**, and it clashes with the owner of the latest
of those. -/
theorem forall₂_clashes (key owner : α → Text) (uses : List α) :
    List.Forall₂
      (fun use clash => clash.1 = use.1 ∧ ∃ earlier,
        LatestWith key (key use.1) (uses.take use.2) earlier ∧ clash.2 = owner earlier)
      (repeats key uses) (clashes key owner uses) :=
  forall₂_clashesAfter key owner [] uses

/-- What is made of the clashes is made of the uses whose key an earlier one has, each with the owner of the latest of
those. -/
theorem forall₂_map_clashes {β : Type} (key owner : α → Text) (make : α → Text → β) (uses : List α) :
    List.Forall₂
      (fun use made => ∃ earlier,
        LatestWith key (key use.1) (uses.take use.2) earlier ∧ made = make use.1 (owner earlier))
      (repeats key uses) ((clashes key owner uses).map fun (use, name) => make use name) := by
  rw [List.forall₂_map_right_iff]
  apply (forall₂_clashes key owner uses).imp
  rintro ⟨use, place⟩ ⟨use', name⟩ ⟨rfl, earlier, hlatest, rfl⟩
  exact ⟨earlier, hlatest, rfl⟩

/-! ## The uses of one key -/

/-- The uses that have a key. -/
def usesOf (key : α → Text) (k : Text) (uses : List α) : List α := uses.filter fun use => key use == k

theorem usesOf_cons_self (key : α → Text) {k : Text} {use : α} (h : key use = k) (rest : List α) :
    usesOf key k (use :: rest) = use :: usesOf key k rest := by
  simp [usesOf, h]

theorem usesOf_cons_ne (key : α → Text) {k : Text} {use : α} (h : key use ≠ k) (rest : List α) :
    usesOf key k (use :: rest) = usesOf key k rest := by
  simp [usesOf, h]

theorem usesOf_append (key : α → Text) (k : Text) (before after : List α) :
    usesOf key k (before ++ after) = usesOf key k before ++ usesOf key k after :=
  List.filter_append ..

theorem usesOf_concat_self (key : α → Text) {k : Text} {use : α} (h : key use = k) (uses : List α) :
    usesOf key k (uses ++ [use]) = usesOf key k uses ++ [use] := by
  rw [usesOf_append, usesOf_cons_self key h]
  rfl

theorem usesOf_eq_nil_iff {key : α → Text} {k : Text} {uses : List α} :
    usesOf key k uses = [] ↔ k ∉ uses.map key := by
  simp [usesOf]

theorem key_of_mem_usesOf (key : α → Text) {k : Text} {uses : List α} {use : α} (h : use ∈ usesOf key k uses) :
    key use = k :=
  beq_iff_eq.mp (List.mem_filter.mp h).2

/-- After some owners, the clashes of a key pair each of its uses with the owner before it: the first use with the
owner that the key has, if it has one, and every other use with the owner of the use before. -/
theorem filter_clashesAfter (key owner : α → Text) (owners : List (Text × Text)) (uses : List α) (k : Text) :
    (clashesAfter key owner owners uses).filter (fun clash => key clash.1 == k) =
      match Entries.get? k owners with
      | some first => (usesOf key k uses).zip (first :: (usesOf key k uses).map owner)
      | none => (usesOf key k uses).tail.zip ((usesOf key k uses).map owner) := by
  induction uses generalizing owners with
  | nil => cases Entries.get? k owners <;> rfl
  | cons use rest ih =>
    have hlater := ih ((key use, owner use) :: owners)
    unfold clashesAfter
    by_cases hk : key use = k
    · -- behind this use the key has an owner, which the next use of the key is paired with
      rw [hk, Entries.get?_cons_self] at hlater
      rw [hk, usesOf_cons_self key hk]
      cases hg : Entries.get? k owners with
      | some first => simp [hk, hlater]
      | none => simp [hlater]
    · rw [Entries.get?_cons_ne hk] at hlater
      rw [usesOf_cons_ne key hk]
      cases hg : Entries.get? (key use) owners with
      | some first => simpa [hk] using hlater
      | none => exact hlater

/-- **The clashes of a key are those of neighbours**: each of its uses but the first, with the owner of the use
before it. -/
theorem filter_clashes (key owner : α → Text) (uses : List α) (k : Text) :
    (clashes key owner uses).filter (fun clash => key clash.1 == k) =
      ((usesOf key k uses).zip (usesOf key k uses).tail).map fun pair => (pair.2, owner pair.1) := by
  unfold clashes
  rw [filter_clashesAfter, Entries.get?, ← List.zip_swap, List.zip_map_left, List.map_map]
  rfl

/-- A list is a chain when all its neighbours are related. -/
theorem isChain_of_forall_zip {R : α → α → Prop} {items : List α}
    (h : ∀ pair ∈ items.zip items.tail, R pair.1 pair.2) : items.IsChain R := by
  induction items with
  | nil => exact List.isChain_nil
  | cons item rest ih =>
    cases rest with
    | nil => exact List.isChain_singleton item
    | cons next rest =>
      rw [List.isChain_cons_cons]
      exact ⟨h (item, next) List.mem_cons_self, ih fun pair hpair => h pair (List.mem_cons_of_mem _ hpair)⟩

end IntentLint
