import Mathlib.Data.List.Dedup
import Mathlib.Data.String.Basic
import Reconciliation.Table
/-!
# Order and size of tables

The operations keep a table in increasing order of its keys. In an ordered table a key has one entry at most,
so putting a value under a key adds an entry exactly when the key has none.
-/

namespace Reconciliation

namespace Table

variable {α : Type}

theorem ordered_nil : Ordered ([] : Table α) :=
  List.Pairwise.nil

theorem mem_of_find? {t : Table α} {k : String} {v : α} (h : t.find? k = some v) : (k, v) ∈ t := by
  induction t with
  | nil => simp at h
  | cons e rest ih =>
    obtain ⟨k', v'⟩ := e
    by_cases hk : k = k'
    · subst hk
      rw [find?_cons, if_pos rfl] at h
      cases h
      exact List.mem_cons_self
    · rw [find?_cons, if_neg hk] at h
      exact List.mem_cons_of_mem _ (ih h)

theorem find?_eq_none_iff {t : Table α} {k : String} : t.find? k = none ↔ ∀ e ∈ t, e.1 ≠ k := by
  induction t with
  | nil => simp
  | cons e rest ih =>
    obtain ⟨k', v'⟩ := e
    by_cases hk : k = k'
    · simp [hk]
    · simp [hk, ih, Ne.symm hk]

theorem mem_insert {t : Table α} {k : String} {v : α} {e : String × α} (h : e ∈ t.insert k v) :
    e = (k, v) ∨ e ∈ t := by
  induction t with
  | nil => exact .inl (List.mem_singleton.1 h)
  | cons f rest ih =>
    obtain ⟨k', v'⟩ := f
    rw [insert] at h
    split_ifs at h with hk hlt
    · rcases List.mem_cons.1 h with rfl | h
      · exact .inl rfl
      · exact .inr (List.mem_cons_of_mem _ h)
    · exact List.mem_cons.1 h
    · rcases List.mem_cons.1 h with rfl | h
      · exact .inr List.mem_cons_self
      · rcases ih h with rfl | h
        · exact .inl rfl
        · exact .inr (List.mem_cons_of_mem _ h)

theorem ordered_insert {t : Table α} (ht : t.Ordered) (k : String) (v : α) :
    (t.insert k v).Ordered := by
  induction t with
  | nil => exact List.pairwise_singleton _ _
  | cons e rest ih =>
    obtain ⟨k', v'⟩ := e
    obtain ⟨hfirst, hrest⟩ := List.pairwise_cons.1 ht
    rw [insert]
    split_ifs with hk hlt
    · subst hk
      exact List.pairwise_cons.2 ⟨hfirst, hrest⟩
    · refine List.pairwise_cons.2 ⟨?_, ht⟩
      intro e he
      rcases List.mem_cons.1 he with rfl | he
      · exact hlt
      · exact lt_trans hlt (hfirst e he)
    · have hgt : k' < k := lt_of_le_of_ne (not_lt.1 hlt) (Ne.symm hk)
      refine List.pairwise_cons.2 ⟨?_, ih hrest⟩
      intro e he
      rcases mem_insert he with rfl | he
      · exact hgt
      · exact hfirst e he

theorem erase_eq_filter (t : Table α) (k : String) : t.erase k = t.filter (fun e => e.1 != k) := by
  induction t with
  | nil => rfl
  | cons e rest ih =>
    obtain ⟨k', v'⟩ := e
    by_cases hk : k = k'
    · subst hk
      simpa [erase] using ih
    · simpa [erase, hk, Ne.symm hk] using ih

/-- In an ordered table the entries under a key are what is found there. -/
theorem filter_key_eq {t : Table α} (ht : t.Ordered) (k : String) :
    t.filter (fun e => e.1 == k) = (t.find? k).toList.map (k, ·) := by
  induction t with
  | nil => rfl
  | cons e rest ih =>
    obtain ⟨k', v⟩ := e
    obtain ⟨hfirst, hrest⟩ := List.pairwise_cons.1 ht
    by_cases hk : k = k'
    · subst hk
      have hnone : Table.find? rest k = none :=
        find?_eq_none_iff.2 fun e he => ne_of_gt (hfirst e he)
      simp [ih hrest, hnone]
    · simp [ih hrest, hk, Ne.symm hk]

/-- The entries under a key that was new are the one that was put there. -/
theorem filter_key_insert {t : Table α} {k : String} (v : α) (h : t.find? k = none) :
    (t.insert k v).filter (fun e => e.1 == k) = [(k, v)] := by
  induction t with
  | nil => simp [insert]
  | cons e rest ih =>
    obtain ⟨k', v'⟩ := e
    by_cases hk : k = k'
    · simp [hk] at h
    · rw [find?_cons, if_neg hk] at h
      rw [insert, if_neg hk]
      split_ifs with hlt
      · simpa [Ne.symm hk] using find?_eq_none_iff.1 h
      · simp [Ne.symm hk, ih h]

theorem ordered_erase {t : Table α} (ht : t.Ordered) (k : String) : (t.erase k).Ordered := by
  rw [erase_eq_filter]
  exact List.Pairwise.filter _ ht

/-! ### Tables of lists of entries -/

theorem find?_foldl_insert_of_ne (entries : List (String × α)) (t : Table α) {k : String}
    (h : ∀ e ∈ entries, e.1 ≠ k) :
    (entries.foldl (fun t e => t.insert e.1 e.2) t).find? k = t.find? k := by
  induction entries generalizing t with
  | nil => rfl
  | cons e rest ih =>
    rw [List.foldl_cons, ih _ fun e he => h e (List.mem_cons_of_mem _ he)]
    exact find?_insert_of_ne t e.2 (Ne.symm (h e List.mem_cons_self))

/-- Of entries with different keys each is found. -/
theorem find?_foldl_insert_of_mem {entries : List (String × α)} (t : Table α) {k : String} {v : α}
    (hdistinct : (entries.map Prod.fst).Nodup) (h : (k, v) ∈ entries) :
    (entries.foldl (fun t e => t.insert e.1 e.2) t).find? k = some v := by
  induction entries generalizing t with
  | nil => simp at h
  | cons e rest ih =>
    obtain ⟨hfirst, hrest⟩ := List.nodup_cons.1 hdistinct
    rcases List.mem_cons.1 h with rfl | hmem
    · rw [List.foldl_cons, find?_foldl_insert_of_ne rest]
      · exact find?_insert_self t k v
      · intro e he heq
        exact hfirst (List.mem_map.2 ⟨e, he, heq⟩)
    · exact ih _ hrest hmem

theorem ordered_foldl_insert (entries : List (String × α)) {t : Table α} (ht : t.Ordered) :
    (entries.foldl (fun t e => t.insert e.1 e.2) t).Ordered := by
  induction entries generalizing t with
  | nil => exact ht
  | cons e rest ih => exact ih (ordered_insert ht e.1 e.2)

theorem ordered_ofList (entries : List (String × α)) : (ofList entries).Ordered :=
  ordered_foldl_insert entries ordered_nil

/-! ### Size -/

theorem length_insert_of_find?_eq_none {t : Table α} {k : String} (v : α) (h : t.find? k = none) :
    (t.insert k v).length = t.length + 1 := by
  induction t with
  | nil => rfl
  | cons e rest ih =>
    obtain ⟨k', v'⟩ := e
    by_cases hk : k = k'
    · simp [hk] at h
    · rw [find?_cons, if_neg hk] at h
      rw [insert, if_neg hk]
      split_ifs with hlt
      · rfl
      · rw [List.length_cons, ih h, List.length_cons]

theorem length_insert_of_find?_eq_some {t : Table α} (ht : t.Ordered) {k : String} (v : α) {w : α}
    (h : t.find? k = some w) : (t.insert k v).length = t.length := by
  induction t with
  | nil => simp at h
  | cons e rest ih =>
    obtain ⟨k', v'⟩ := e
    obtain ⟨hfirst, hrest⟩ := List.pairwise_cons.1 ht
    by_cases hk : k = k'
    · rw [insert, if_pos hk]
      rfl
    · rw [find?_cons, if_neg hk] at h
      have hgt : k' < k := hfirst _ (mem_of_find? h)
      rw [insert, if_neg hk, if_neg (not_lt_of_gt hgt), List.length_cons, ih hrest h, List.length_cons]

theorem nodup_keys {t : Table α} (ht : t.Ordered) : t.keys.Nodup :=
  List.Pairwise.map _ (fun _ _ hlt => ne_of_lt hlt) ht

theorem length_keys (t : Table α) : t.keys.length = t.length :=
  List.length_map _

theorem mem_keys_iff {t : Table α} {k : String} : k ∈ t.keys ↔ (t.find? k).isSome := by
  constructor
  · intro h
    obtain ⟨e, he, rfl⟩ := List.mem_map.1 h
    rw [← Option.ne_none_iff_isSome]
    exact fun hnone => find?_eq_none_iff.1 hnone e he rfl
  · intro h
    obtain ⟨v, hv⟩ := Option.isSome_iff_exists.1 h
    exact List.mem_map_of_mem (mem_of_find? hv)

/-- A table that has the keys of another one and those of a list has one entry more for each of the latter that is new,
however often it is listed. -/
theorem length_of_find?_isSome_iff {t t' : Table α} (ht : t.Ordered) (ht' : t'.Ordered) {keys : List String}
    (h : ∀ k, (t'.find? k).isSome ↔ (t.find? k).isSome ∨ k ∈ keys) :
    t'.length = t.length + (keys.dedup.filter fun k => (t.find? k).isNone).length := by
  have hnodup : (t.keys ++ keys.dedup.filter fun k => (t.find? k).isNone).Nodup := by
    refine List.nodup_append.2 ⟨nodup_keys ht, (List.nodup_dedup keys).filter _, ?_⟩
    rintro k hk k' hk' rfl
    rw [mem_keys_iff] at hk
    simp [Option.isNone_iff_eq_none.1 (List.mem_filter.1 hk').2] at hk
  have hperm : t'.keys.Perm (t.keys ++ keys.dedup.filter fun k => (t.find? k).isNone) := by
    refine (List.perm_ext_iff_of_nodup (nodup_keys ht') hnodup).2 fun k => ?_
    rw [mem_keys_iff, h, List.mem_append, mem_keys_iff, List.mem_filter, List.mem_dedup]
    cases t.find? k <;> simp
  have hlength := hperm.length_eq
  rwa [List.length_append, length_keys, length_keys] at hlength

/-! ### Two operations on one key -/

@[simp] theorem erase_insert_self (t : Table α) (k : String) (v : α) :
    (t.insert k v).erase k = t.erase k := by
  induction t with
  | nil => simp [insert, erase]
  | cons e rest ih =>
    obtain ⟨k', v'⟩ := e
    by_cases hk : k = k'
    · simp [insert, erase, hk]
    · by_cases hlt : k < k'
      · simp [insert, erase, hk, hlt]
      · simp [insert, erase, hk, hlt, ih]

theorem erase_of_find?_eq_none {t : Table α} {k : String} (h : t.find? k = none) : t.erase k = t := by
  rw [erase_eq_filter, List.filter_eq_self]
  intro e he
  exact bne_iff_ne.2 (find?_eq_none_iff.1 h e he)

@[simp] theorem erase_erase_self (t : Table α) (k : String) : (t.erase k).erase k = t.erase k := by
  simp [erase_eq_filter]

/-! ### Tables that are in order -/

theorem insert_of_forall_lt {t : Table α} {k : String} (v : α) (h : ∀ e ∈ t, e.1 < k) :
    t.insert k v = t ++ [(k, v)] := by
  induction t with
  | nil => rfl
  | cons e rest ih =>
    obtain ⟨k', v'⟩ := e
    have hlt : k' < k := h _ List.mem_cons_self
    rw [insert, if_neg (ne_of_gt hlt), if_neg (not_lt_of_gt hlt), ih fun e he => h e (List.mem_cons_of_mem _ he)]
    rfl

theorem foldl_insert_of_ordered {t rest : Table α} (h : Ordered (t ++ rest)) :
    rest.foldl (fun t e => t.insert e.1 e.2) t = t ++ rest := by
  induction rest generalizing t with
  | nil => simp
  | cons e rest ih =>
    have hlast : t.insert e.1 e.2 = t ++ [e] :=
      insert_of_forall_lt e.2 fun f hf => (List.pairwise_append.1 h).2.2 f hf e List.mem_cons_self
    rw [List.foldl_cons, hlast, ih]
    · simp
    · simpa using h

/-- The table of entries that are in order already is these entries. -/
theorem ofList_of_ordered {t : Table α} (h : t.Ordered) : ofList t = t :=
  foldl_insert_of_ordered h

/-! ### Some keys left out -/

/-- The entries of a table under all but some keys. -/
def without (names : List String) (t : Table α) : Table α :=
  t.filter fun e => e.1 ∉ names

theorem without_erase {names : List String} {k : String} (hk : k ∈ names) (t : Table α) :
    (t.erase k).without names = t.without names := by
  rw [without, without, erase_eq_filter, List.filter_filter]
  apply List.filter_congr
  intro e _
  by_cases he : e.1 = k
  · simp [he, hk]
  · simp [he]

theorem without_insert {names : List String} {k : String} (hk : k ∈ names) (t : Table α) (v : α) :
    (t.insert k v).without names = t.without names := by
  rw [← without_erase hk, erase_insert_self, without_erase hk]

theorem without_of_free {names : List String} {t : Table α} (h : ∀ name ∈ names, t.find? name = none) :
    t.without names = t := by
  rw [without, List.filter_eq_self]
  intro e he
  rw [decide_eq_true_eq]
  exact fun hmem => find?_eq_none_iff.1 (h _ hmem) e he rfl

theorem ordered_without {t : Table α} (ht : t.Ordered) (names : List String) : (t.without names).Ordered :=
  List.Pairwise.filter _ ht

/-- The entries under a key stay when a value is put under another one. -/
theorem filter_key_insert_of_ne {t : Table α} {k l : String} (v : α) (h : l ≠ k) :
    (t.insert k v).filter (fun e => e.1 == l) = t.filter fun e => e.1 == l := by
  have herased (u : Table α) : u.filter (fun e => e.1 == l) = (u.erase k).filter fun e => e.1 == l := by
    rw [erase_eq_filter, List.filter_filter]
    apply List.filter_congr
    intro e _
    by_cases he : e.1 = l
    · simp [he, h]
    · simp [he]
  rw [herased, erase_insert_self, ← herased]

end Table

end Reconciliation
