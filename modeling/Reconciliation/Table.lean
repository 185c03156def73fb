/-!
# Tables keyed by text

A table is a list of entries that its operations keep in increasing order of keys, with one entry for
each key. Labels, the fields of a JSON object, stored objects and metric series are all tables, so
what they show is in the order of the keys whatever the order of the insertions was.

The rest reaches a table through `find?`, `insert` and `erase`.
-/

namespace Reconciliation

/-- Entries in increasing order of their keys. -/
abbrev Table (α : Type) : Type := List (String × α)

namespace Table

variable {α β : Type}

/-- The keys increase. -/
def Ordered (t : Table α) : Prop :=
  List.Pairwise (fun e f => e.1 < f.1) t

def find? : Table α → String → Option α
  | [], _ => none
  | (k', v) :: rest, k => if k = k' then some v else find? rest k

def contains (t : Table α) (k : String) : Bool :=
  (t.find? k).isSome

/-- Puts a value under a key, in place of the value that the key had. -/
def insert : Table α → String → α → Table α
  | [], k, v => [(k, v)]
  | (k', v') :: rest, k, v =>
    if k = k' then (k, v) :: rest
    else if k < k' then (k, v) :: (k', v') :: rest
    else (k', v') :: insert rest k v

def erase : Table α → String → Table α
  | [], _ => []
  | (k', v) :: rest, k => if k = k' then erase rest k else (k', v) :: erase rest k

/-- Puts a value under a key that has none yet. -/
def insertNew (t : Table α) (k : String) (v : α) : Table α :=
  if t.contains k then t else t.insert k v

/-- The table of a list of entries; of two entries with one key the later counts. -/
def ofList (entries : List (String × α)) : Table α :=
  entries.foldl (fun t e => t.insert e.1 e.2) []

def keys (t : Table α) : List String :=
  t.map Prod.fst

def values (t : Table α) : List α :=
  t.map Prod.snd

/-! ### Lookup after an operation -/

@[simp] theorem find?_nil (k : String) : find? ([] : Table α) k = none := rfl

@[simp] theorem find?_cons (k' : String) (v : α) (rest : Table α) (k : String) :
    find? ((k', v) :: rest) k = if k = k' then some v else find? rest k := rfl

theorem find?_insert (t : Table α) (k : String) (v : α) (l : String) :
    (t.insert k v).find? l = if l = k then some v else t.find? l := by
  induction t with
  | nil => rfl
  | cons e rest ih =>
    obtain ⟨k', v'⟩ := e
    by_cases hk : k = k'
    · subst hk
      by_cases hl : l = k <;> simp [insert, hl]
    · by_cases hlt : k < k'
      · simp [insert, hk, hlt]
      · by_cases hl : l = k
        · subst hl
          simp [insert, hk, hlt, ih]
        · simp [insert, hk, hlt, ih, hl]

@[simp] theorem find?_insert_self (t : Table α) (k : String) (v : α) :
    (t.insert k v).find? k = some v := by
  simp [find?_insert]

theorem find?_insert_of_ne (t : Table α) {k l : String} (v : α) (h : l ≠ k) :
    (t.insert k v).find? l = t.find? l := by
  simp [find?_insert, h]

theorem find?_erase (t : Table α) (k l : String) :
    (t.erase k).find? l = if l = k then none else t.find? l := by
  induction t with
  | nil => simp [erase]
  | cons e rest ih =>
    obtain ⟨k', v'⟩ := e
    by_cases hk : k = k'
    · subst hk
      by_cases hl : l = k
      · subst hl
        simpa [erase] using ih
      · simp [erase, ih, hl]
    · by_cases hl : l = k
      · subst hl
        simp [erase, hk, ih]
      · simp [erase, hk, ih, hl]

@[simp] theorem find?_erase_self (t : Table α) (k : String) : (t.erase k).find? k = none := by
  simp [find?_erase]

theorem find?_erase_of_ne (t : Table α) {k l : String} (h : l ≠ k) :
    (t.erase k).find? l = t.find? l := by
  simp [find?_erase, h]

end Table

end Reconciliation
