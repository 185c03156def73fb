import Mathlib.Data.List.Pairwise
import Reconciliation.Proofs.Memory.Run
/-!
# What holds of every store in memory

In a store that a run from the empty one leads to, each object is filed under the path of its own identity,
it has an identifier, and it has a version that was issued and that no other object has (`Valid`). The
versions that a run gives to its writes are the numbers after the version that it starts with, one after
the other. The identifier under a path stays until the object is removed.
-/

namespace Reconciliation

namespace Memory

/-- Versions are told apart by their texts. -/
theorem toString_version_inj {a b : Nat} (h : toString a = toString b) : a = b := by
  have hdigits : (Nat.repr a).toList = (Nat.repr b).toList := congrArg String.toList h
  rw [Nat.toList_repr, Nat.toList_repr] at hdigits
  have hvalue := congrArg (fun cs => Nat.ofDigitChars 10 cs 0) hdigits
  simpa only [Nat.ofDigitChars_ten_toDigits] using hvalue

/-- What holds of every store that is reachable. -/
structure Valid (m : Memory) : Prop where
  ordered : m.objects.Ordered
  filed : ∀ path o, m.objects.find? path = some o → ∃ k, storeKey o = .ok k ∧ k.path = path
  identified : ∀ path o, m.objects.find? path = some o → o.metadata.uid.isSome
  versioned : ∀ path o, m.objects.find? path = some o →
    ∃ n, 1 ≤ n ∧ n ≤ m.version ∧ o.metadata.resourceVersion = some (toString n)
  distinct : ∀ path path' o o', m.objects.find? path = some o → m.objects.find? path' = some o' →
    o.metadata.resourceVersion = o'.metadata.resourceVersion → path = path'

theorem valid_empty : Valid {} where
  ordered := Table.ordered_nil
  filed := by simp
  identified := by simp
  versioned := by simp
  distinct := by simp

/-- Losing objects and issuing versions are harmless. -/
theorem Valid.of_find? {m m' : Memory} (hm : m.Valid) (ordered : m'.objects.Ordered)
    (version : m.version ≤ m'.version)
    (find? : ∀ path o, m'.objects.find? path = some o → m.objects.find? path = some o) :
    m'.Valid where
  ordered := ordered
  filed path o h := hm.filed path o (find? path o h)
  identified path o h := hm.identified path o (find? path o h)
  versioned path o h := by
    obtain ⟨n, hpos, hle, hn⟩ := hm.versioned path o (find? path o h)
    exact ⟨n, hpos, le_trans hle version, hn⟩
  distinct path path' o o' h h' heq :=
    hm.distinct path path' o o' (find? path o h) (find? path' o' h') heq

theorem Valid.resourceVersion_ne {m : Memory} (hm : m.Valid) {path : String} {o : DynamicObject}
    (h : m.objects.find? path = some o) : o.metadata.resourceVersion ≠ some m.nextVersion := by
  obtain ⟨n, -, hle, hn⟩ := hm.versioned path o h
  intro heq
  have hsucc : n = m.version + 1 := toString_version_inj (Option.some.inj (hn.symm.trans heq))
  omega

/-- Storing an object with the next version under the path where it belongs keeps the store valid. -/
theorem Valid.insert {m m' : Memory} (hm : m.Valid) {path : String} {o : DynamicObject}
    (storable : m.Storable path o) (objects : m'.objects = m.objects.insert path o)
    (version : m'.version = m.version + 1) : m'.Valid := by
  have hcases : ∀ path' o', m'.objects.find? path' = some o' →
      (path' = path ∧ o' = o) ∨ m.objects.find? path' = some o' := by
    intro path' o' h
    rw [objects, Table.find?_insert] at h
    split_ifs at h with heq
    · exact .inl ⟨heq, (Option.some.inj h).symm⟩
    · exact .inr h
  constructor
  case ordered =>
    rw [objects]
    exact Table.ordered_insert hm.ordered path o
  case filed =>
    intro path' o' h
    rcases hcases path' o' h with ⟨rfl, rfl⟩ | h
    · rcases storable.filed with hown | ⟨old, hold, hkey⟩
      · exact hown
      · obtain ⟨k, hk, hpath⟩ := hm.filed _ old hold
        exact ⟨k, hkey.trans hk, hpath⟩
    · exact hm.filed path' o' h
  case identified =>
    intro path' o' h
    rcases hcases path' o' h with ⟨rfl, rfl⟩ | h
    · cases hold : m.objects.find? path' with
      | none => exact storable.identified hold
      | some old =>
        rw [storable.uid_eq old hold]
        exact hm.identified path' old hold
    · exact hm.identified path' o' h
  case versioned =>
    intro path' o' h
    rcases hcases path' o' h with ⟨rfl, rfl⟩ | h
    · exact ⟨m.version + 1, by omega, by omega, storable.resourceVersion⟩
    · obtain ⟨n, hpos, hle, hn⟩ := hm.versioned path' o' h
      exact ⟨n, hpos, by omega, hn⟩
  case distinct =>
    intro p q a b ha hb heq
    rcases hcases p a ha with ⟨rfl, rfl⟩ | ha' <;> rcases hcases q b hb with ⟨rfl, rfl⟩ | hb'
    · rfl
    · exact absurd (heq.symm.trans storable.resourceVersion) (hm.resourceVersion_ne hb')
    · exact absurd (heq.trans storable.resourceVersion) (hm.resourceVersion_ne ha')
    · exact hm.distinct p q a b ha' hb' heq

theorem Valid.response {m m' : Memory} {c : StoreCall} {e : Option StoreError}
    {w : Option DynamicObject} (hm : m.Valid) (h : Response m c e w m') : m'.Valid := by
  cases h with
  | unchanged _ _ _ objects version =>
    exact hm.of_find? (objects ▸ hm.ordered) version.ge fun path o ho => objects ▸ ho
  | stored _ _ _ _ storable objects version => exact hm.insert storable objects version
  | removed path _ _ _ _ objects version =>
    refine hm.of_find? (objects ▸ Table.ordered_erase hm.ordered path) version.ge ?_
    intro path' o ho
    rw [objects, Table.find?_erase] at ho
    split_ifs at ho
    exact ho

theorem Valid.perform {m : Memory} (hm : m.Valid) (a : Action) : (m.perform a).Valid := by
  cases a with
  | call c => exact hm.response (Memory.response c m)
  | rejectStatus | clearLog => exact hm.of_find? hm.ordered le_rfl fun _ _ h => h

theorem Valid.run {m : Memory} (hm : m.Valid) (actions : List Action) : (m.run actions).Valid := by
  induction actions generalizing m with
  | nil => exact hm
  | cons a actions ih => exact ih (hm.perform a)

theorem Reachable.valid {m : Memory} (h : m.Reachable) : m.Valid := by
  obtain ⟨actions, rfl⟩ := h
  exact valid_empty.run actions

/-! ### Versions that are issued -/

/-- The version of the object that a call writes, if it writes one. -/
def issuedBy (m : Memory) : Action → List (Option String)
  | .call c => ((c.written? (respond c m).1).map fun o => o.metadata.resourceVersion).toList
  | .rejectStatus _ => []
  | .clearLog => []

/-- The versions of the objects that the calls of a run write, in the order of the calls. -/
def issued (m : Memory) : List Action → List (Option String)
  | [] => []
  | a :: actions => m.issuedBy a ++ (m.perform a).issued actions

/-- The versions from the one after `a` up to `b`. -/
def versionsBetween (a b : Nat) : List Nat :=
  List.range' (a + 1) (b - a)

theorem issuedBy_eq (m : Memory) (a : Action) :
    m.issuedBy a =
      (versionsBetween m.version (m.perform a).version).map fun n => some (toString n) := by
  cases a with
  | call c =>
    have h := Memory.response c m
    simp only [issuedBy, Memory.perform]
    generalize (c.written? (respond c m).1) = w at h ⊢
    generalize (c.error? (respond c m).1) = e at h
    generalize (respond c m).2 = m' at h ⊢
    cases h with
    | unchanged _ _ _ _ version => simp [versionsBetween, version]
    | stored _ o _ _ storable _ version =>
      simp [versionsBetween, version, storable.resourceVersion, nextVersion]
    | removed _ _ _ _ _ _ version => simp [versionsBetween, version]
  | rejectStatus | clearLog => simp [issuedBy, versionsBetween, Memory.perform, clearLog]

/-- A run issues the numbers after the version that it starts with, one after the other. -/
theorem issued_eq (m : Memory) (actions : List Action) :
    m.issued actions =
      (versionsBetween m.version (m.run actions).version).map fun n => some (toString n) := by
  induction actions generalizing m with
  | nil => simp [issued, versionsBetween]
  | cons a actions ih =>
    have hfirst := version_le_perform m a
    have hrest := version_le_run (m.perform a) actions
    have hsplit : versionsBetween m.version ((m.perform a).run actions).version =
        versionsBetween m.version (m.perform a).version ++
          versionsBetween (m.perform a).version ((m.perform a).run actions).version := by
      simp only [versionsBetween]
      rw [show (m.perform a).version + 1 = m.version + 1 + ((m.perform a).version - m.version) by omega,
        List.range'_append_1]
      congr 1
      omega
    rw [issued, issuedBy_eq, ih, run_cons, hsplit, List.map_append]

/-! ### Identifiers -/

theorem uid_response {m m' : Memory} {c : StoreCall} {e : Option StoreError}
    {w : Option DynamicObject} (h : Response m c e w m') {path : String} {o : DynamicObject}
    (ho : m.objects.find? path = some o)
    (hkeep : ¬ ((∃ d, c = .delete d) ∧ c.path? = some path ∧ e = none)) :
    ∃ o', m'.objects.find? path = some o' ∧ o'.metadata.uid = o.metadata.uid := by
  cases h with
  | unchanged _ _ _ objects _ => exact ⟨o, by rw [objects, ho], rfl⟩
  | stored path' o' _ _ storable objects _ =>
    by_cases heq : path = path'
    · subst heq
      exact ⟨o', by rw [objects, Table.find?_insert_self], storable.uid_eq o ho⟩
    · exact ⟨o, by rw [objects, Table.find?_insert_of_ne _ _ heq, ho], rfl⟩
  | removed path' d _ call target objects _ =>
    have hne : path ≠ path' := by
      rintro rfl
      exact hkeep ⟨⟨d, call⟩, target, rfl⟩
    exact ⟨o, by rw [objects, Table.find?_erase_of_ne _ hne, ho], rfl⟩

/-- While no call removes the object under a path, there is one and its identifier stays. -/
theorem uid_run {m : Memory} {actions : List Action} {path : String} {o : DynamicObject}
    (ho : m.objects.find? path = some o) (hkeep : ¬ Happens (Removes path) m actions) :
    ∃ o', (m.run actions).objects.find? path = some o' ∧ o'.metadata.uid = o.metadata.uid := by
  induction actions generalizing m o with
  | nil => exact ⟨o, ho, rfl⟩
  | cons a actions ih =>
    rw [happens_cons, not_or] at hkeep
    obtain ⟨hfirst, hrest⟩ := hkeep
    have hstep : ∃ o', (m.perform a).objects.find? path = some o' ∧
        o'.metadata.uid = o.metadata.uid := by
      cases a with
      | call c => exact uid_response (Memory.response c m) ho fun h => hfirst ⟨c, rfl, h⟩
      | rejectStatus | clearLog => exact ⟨o, ho, rfl⟩
    obtain ⟨o', ho', huid⟩ := hstep
    obtain ⟨o'', ho'', huid'⟩ := ih ho' hrest
    exact ⟨o'', ho'', huid'.trans huid⟩

/-- Every run from the empty store leads to a valid store, gives each of its writes a greater version than
all writes before it, and keeps the identifier under a path for as long as no call removes the object. -/
theorem run_empty_invariant (actions : List Action) :
    (run {} actions).Valid ∧
    (∃ ns : List Nat, issued {} actions = ns.map (fun n => some (toString n)) ∧
      ns.Pairwise (· < ·)) ∧
    ∀ before after, actions = before ++ after → ∀ path o,
      (run {} before).objects.find? path = some o →
      ¬ Happens (Removes path) (run {} before) after →
      ∃ o', (run {} actions).objects.find? path = some o' ∧ o'.metadata.uid = o.metadata.uid := by
  refine ⟨valid_empty.run actions, ⟨_, issued_eq {} actions, List.pairwise_lt_range' 1⟩, ?_⟩
  rintro before after rfl path o ho hkeep
  rw [run_append]
  exact uid_run ho hkeep

end Memory

end Reconciliation
