import Reconciliation.Json.Decode
import Reconciliation.Proofs.Table
/-!
# Reading back what was written as fields

A value that was made of fields with different names (`Json.ofFields`) has each of them once. Reading a field
that may be unset then comes down to reading what was written in it (`Decoder.optional_ofFields`).
-/

namespace Reconciliation

section Except

variable {α β ε : Type}

theorem bind_eq_ok {x : Except ε α} {f : α → Except ε β} {b : β} :
    x >>= f = .ok b ↔ ∃ a, x = .ok a ∧ f a = .ok b := by
  cases x with
  | error e => simp [bind, Except.bind]
  | ok a => simp [bind, Except.bind]

@[simp] theorem ok_bind (a : α) (f : α → Except ε β) : (Except.ok a >>= f) = f a := rfl

@[simp] theorem map_ok (f : α → β) (a : α) : f <$> (Except.ok a : Except ε α) = .ok (f a) := rfl

end Except

namespace Json

theorem names_filterMap_sublist (fs : List (String × Option Json)) :
    List.Sublist ((fs.filterMap fun f => f.2.map (f.1, ·)).map Prod.fst) (fs.map Prod.fst) := by
  induction fs with
  | nil => exact .slnil
  | cons f rest ih =>
    obtain ⟨name, j⟩ := f
    cases j with
    | none => exact .cons name ih
    | some j => exact .cons_cons name ih

theorem lookup_of_mem {fs : List (String × Option Json)} (hdistinct : (fs.map Prod.fst).Nodup)
    {name : String} {j : Option Json} (h : (name, j) ∈ fs) : fs.lookup name = some j := by
  induction fs with
  | nil => simp at h
  | cons f rest ih =>
    obtain ⟨hfirst, hrest⟩ := List.nodup_cons.1 hdistinct
    rcases List.mem_cons.1 h with rfl | hmem
    · exact List.lookup_cons_self
    · have hne : (name == f.1) = false := by
        refine beq_eq_false_iff_ne.2 ?_
        rintro rfl
        exact hfirst (List.mem_map.2 ⟨_, hmem, rfl⟩)
      rw [List.lookup_cons, hne]
      exact ih hrest hmem

/-- The value of a field of an object that is made of fields with different names. -/
theorem find?_ofFields {fs : List (String × Option Json)} (hdistinct : (fs.map Prod.fst).Nodup)
    (name : String) :
    (Table.ofList (fs.filterMap fun f => f.2.map (f.1, ·))).find? name = (fs.lookup name).join := by
  cases hvalue : (fs.lookup name).join with
  | some j =>
    have hmem : (name, some j) ∈ fs := by
      obtain ⟨before, after, rfl, -⟩ := List.lookup_eq_some_iff.1 (Option.join_eq_some_iff.1 hvalue)
      simp
    refine Table.find?_foldl_insert_of_mem [] ?_ (List.mem_filterMap.2 ⟨_, hmem, rfl⟩)
    exact hdistinct.sublist (names_filterMap_sublist fs)
  | none =>
    refine Table.find?_foldl_insert_of_ne _ [] ?_
    rintro e he rfl
    obtain ⟨f, hf, hset⟩ := List.mem_filterMap.1 he
    obtain ⟨j, hj, rfl⟩ := Option.map_eq_some_iff.1 hset
    rw [lookup_of_mem hdistinct hf, hj] at hvalue
    cases hvalue

end Json

namespace Decoder

variable {α : Type}

/-- Reads what was written in a field, if anything was. -/
def ofWritten (item : Decoder α) : Option Json → Except DecodeError (Option α)
  | none => .ok none
  | some .null => .ok none
  | some j => some <$> item (.value j)

/-- The fields of a value that is an object. -/
def written (t : Table Json) : Fields :=
  t.map fun f => (f.1, .value f.2)

theorem filter_written (t : Table Json) (p : String → Bool) :
    (written t).filter (fun f => p f.1) = written (t.filter fun f => p f.1) := by
  simp only [written, List.filter_map]
  rfl

theorem field?_written (t : Table Json) (name : String) :
    Json.Written.field? (written t) name = (t.find? name).map .value := by
  induction t with
  | nil => rfl
  | cons f rest ih =>
    obtain ⟨name', j⟩ := f
    by_cases hname : name = name'
    · simp [Json.Written.field?, written, hname]
    · simpa [Json.Written.field?, written, hname, Ne.symm hname] using ih

theorem optional_written {t : Table Json} (ht : t.Ordered) (name : String) (item : Decoder α) :
    optional (written t) name item = ofWritten item (t.find? name) := by
  rw [optional, filter_written t (· == name), Table.filter_key_eq ht]
  cases t.find? name with
  | none => rfl
  | some j =>
    cases j with
    | null => rfl
    | _ => simp [written, ofWritten]

/-- The fields of an object that is made of fields. Those without a value are left out. -/
def ofFields (fs : List (String × Option Json)) : Fields :=
  written (Table.ofList (fs.filterMap fun f => f.2.map (f.1, ·)))

theorem fields_ofFields (expected : String) (fs : List (String × Option Json)) :
    fields expected (.value (Json.ofFields fs)) = .ok (ofFields fs) := rfl

/-- Reading a field of an object that is made of fields with different names. -/
theorem optional_ofFields {fs : List (String × Option Json)} (hdistinct : (fs.map Prod.fst).Nodup)
    (name : String) (item : Decoder α) :
    optional (ofFields fs) name item = ofWritten item (fs.lookup name).join := by
  rw [ofFields, optional_written (Table.ordered_ofList _), Json.find?_ofFields hdistinct]

end Decoder

end Reconciliation
