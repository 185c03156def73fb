import Reconciliation.Proofs.Manifest
/-!
# Manifests in other groups

The resources of a manifest do not depend on how they are grouped: documents of their own, the items of a sequence and
those of a list are the same (`Regrouped`), inside of other groups too. What counts are the leaves of the documents,
from left to right (`Manifest.parse_leaves`): each is read once, and the first that cannot be read fails the manifest,
as does a document before it that is no YAML.

`leaves` opens all groups. It is the one list of resources that a document can be regrouped to, so two lists of
documents with the same leaves are collected alike.
-/

namespace Reconciliation

section Except

variable {α ε : Type}

theorem mapM_id_ok (as : List α) : (as.map (Except.ok (ε := ε))).mapM id = .ok as := by
  induction as with
  | nil => rfl
  | cons a as ih =>
    rw [List.map_cons, List.mapM_cons, ih]
    rfl

theorem mapM_id_error (as : List α) (e : ε) (after : List (Except ε α)) :
    (as.map Except.ok ++ Except.error e :: after).mapM id = .error e := by
  rw [List.mapM_append, mapM_id_ok, List.mapM_cons]
  rfl

/-- Some results are all there, or there is a first error among them. -/
theorem all_ok_or_first_error (rs : List (Except ε α)) :
    (∃ as : List α, rs = as.map .ok) ∨ ∃ (as : List α) (e : ε) (after : List (Except ε α)),
      rs = as.map .ok ++ .error e :: after := by
  induction rs with
  | nil => exact .inl ⟨[], rfl⟩
  | cons r rs ih =>
    cases r with
    | error e => exact .inr ⟨[], e, rs, rfl⟩
    | ok a =>
      rcases ih with ⟨as, rfl⟩ | ⟨as, e, after, rfl⟩
      · exact .inl ⟨a :: as, rfl⟩
      · exact .inr ⟨a :: as, e, after, rfl⟩

theorem mapM_id_eq_ok {rs : List (Except ε α)} {as : List α} : rs.mapM id = .ok as ↔ rs = as.map .ok := by
  constructor
  · intro h
    rcases all_ok_or_first_error rs with ⟨as', rfl⟩ | ⟨as', e, after, rfl⟩
    · rw [mapM_id_ok] at h
      rw [Except.ok.inj h]
    · rw [mapM_id_error] at h
      cases h
  · rintro rfl
    exact mapM_id_ok as

theorem mapM_id_eq_error {rs : List (Except ε α)} {e : ε} :
    rs.mapM id = .error e ↔ ∃ (as : List α) (after : List (Except ε α)), rs = as.map .ok ++ .error e :: after := by
  constructor
  · intro h
    rcases all_ok_or_first_error rs with ⟨as, rfl⟩ | ⟨as, e', after, rfl⟩
    · rw [mapM_id_ok] at h
      cases h
    · rw [mapM_id_error] at h
      rw [Except.error.inj h]
      exact ⟨as, after, rfl⟩
  · rintro ⟨as, after, rfl⟩
    exact mapM_id_error as e after

end Except

namespace Manifest

variable {xs ys : List Yaml} {ps qs : List (Yaml × Yaml)} {y : Yaml}

/-! ### Groups -/

/-- Two lists of documents have the same resources in other groups. -/
inductive Regrouped : List Yaml → List Yaml → Prop
  | refl (ys : List Yaml) : Regrouped ys ys
  | symm {xs ys : List Yaml} (h : Regrouped xs ys) : Regrouped ys xs
  | trans {xs ys zs : List Yaml} (h : Regrouped xs ys) (h' : Regrouped ys zs) : Regrouped xs zs
  | append {xs ys xs' ys' : List Yaml} (h : Regrouped xs ys) (h' : Regrouped xs' ys') :
    Regrouped (xs ++ xs') (ys ++ ys')
  | null : Regrouped [.null] []
  | sequence (ys : List Yaml) : Regrouped [.sequence ys] ys
  | list {ps : List (Yaml × Yaml)} (isList : isList ps = true) :
    Regrouped [.mapping ps] (Yaml.field? ps "items").toList

theorem Regrouped.inSequence (h : Regrouped xs ys) : Regrouped [.sequence xs] [.sequence ys] :=
  (Regrouped.sequence xs).trans (h.trans (Regrouped.sequence ys).symm)

/-- A list of items is a group like a sequence of them. -/
theorem Regrouped.items (hlist : isList ps = true) (hitems : Yaml.field? ps "items" = some (.sequence ys)) :
    Regrouped [.mapping ps] ys := by
  have hlist := Regrouped.list hlist
  rw [hitems] at hlist
  exact hlist.trans (.sequence ys)

/-! ### Leaves -/

mutual

/-- The resources in a document, from left to right, before they are read. -/
def leaves : Yaml → List Yaml
  | .null => []
  | .sequence ys => leavesOfAll ys
  | .mapping ps => if isList ps then leavesOfItems ps else [.mapping ps]
  | y => [y]

def leavesOfAll : List Yaml → List Yaml
  | [] => []
  | y :: ys => leaves y ++ leavesOfAll ys

def leavesOfItems : List (Yaml × Yaml) → List Yaml
  | [] => []
  | (k, v) :: ps => if k.same (.string "items") then leaves v else leavesOfItems ps

end

theorem leaves_single (h : isSingle y = true) : leaves y = [y] := by
  cases y with
  | null | sequence ys => cases h
  | mapping ps =>
    have hlist : isList ps = false := by simpa [isSingle] using h
    rw [leaves, hlist]
    rfl
  | _ => simp only [leaves]

theorem leaves_sequence (ys : List Yaml) : leaves (.sequence ys) = ys.flatMap leaves := by
  rw [leaves]
  induction ys with
  | nil => rfl
  | cons y ys ih => rw [leavesOfAll, List.flatMap_cons, ih]

theorem leaves_list (h : isList ps = true) :
    leaves (.mapping ps) = (Yaml.field? ps "items").toList.flatMap leaves := by
  rw [leaves, if_pos h]
  clear h
  induction ps with
  | nil => rfl
  | cons p ps ih =>
    obtain ⟨k, v⟩ := p
    rw [leavesOfItems, Yaml.field?, List.find?_cons]
    cases hk : k.same (.string "items") with
    | true => exact (List.flatMap_singleton _ _).symm
    | false => exact ih

theorem Regrouped.flatMap_leaves (h : Regrouped xs ys) : xs.flatMap leaves = ys.flatMap leaves := by
  induction h with
  | refl => rfl
  | symm _ ih => exact ih.symm
  | trans _ _ ih ih' => exact ih.trans ih'
  | append _ _ ih ih' => rw [List.flatMap_append, List.flatMap_append, ih, ih']
  | null => rfl
  | sequence ys => rw [List.flatMap_singleton, leaves_sequence]
  | list hlist => rw [List.flatMap_singleton, leaves_list hlist]

mutual

theorem regrouped_leaves (y : Yaml) : Regrouped [y] (leaves y) ∧ ∀ leaf ∈ leaves y, isSingle leaf = true := by
  cases hsingle : isSingle y with
  | true =>
    rw [leaves_single hsingle]
    exact ⟨.refl _, List.forall_mem_singleton.2 hsingle⟩
  | false =>
    match y with
    | .null => exact ⟨.null, List.forall_mem_nil _⟩
    | .sequence ys =>
      obtain ⟨hgroups, hleaves⟩ := regrouped_leavesOfAll ys
      rw [leaves]
      exact ⟨(Regrouped.sequence ys).trans hgroups, hleaves⟩
    | .mapping ps =>
      have hlist : isList ps = true := by simpa [isSingle] using hsingle
      obtain ⟨hgroups, hleaves⟩ := regrouped_leavesOfItems ps
      rw [leaves, if_pos hlist]
      exact ⟨(Regrouped.list hlist).trans hgroups, hleaves⟩

theorem regrouped_leavesOfAll (ys : List Yaml) :
    Regrouped ys (leavesOfAll ys) ∧ ∀ leaf ∈ leavesOfAll ys, isSingle leaf = true := by
  match ys with
  | [] => exact ⟨.refl _, List.forall_mem_nil _⟩
  | y :: ys =>
    obtain ⟨hfirst, hleaves⟩ := regrouped_leaves y
    obtain ⟨hrest, hleaves'⟩ := regrouped_leavesOfAll ys
    rw [leavesOfAll]
    exact ⟨hfirst.append hrest, List.forall_mem_append.2 ⟨hleaves, hleaves'⟩⟩

theorem regrouped_leavesOfItems (ps : List (Yaml × Yaml)) :
    Regrouped (Yaml.field? ps "items").toList (leavesOfItems ps) ∧
      ∀ leaf ∈ leavesOfItems ps, isSingle leaf = true := by
  match ps with
  | [] => exact ⟨.refl _, List.forall_mem_nil _⟩
  | (k, v) :: ps =>
    rw [leavesOfItems, Yaml.field?, List.find?_cons]
    cases hk : k.same (.string "items") with
    | true => exact regrouped_leaves v
    | false => exact regrouped_leavesOfItems ps

end

/-! ### Reading the leaves -/

mutual

/-- A document is collected by reading its leaves. -/
theorem collect_eq (y : Yaml) : collect y = (leaves y).mapM resource := by
  cases hsingle : isSingle y with
  | true =>
    rw [collect_single hsingle, leaves_single hsingle, List.mapM_cons]
    cases resource y <;> rfl
  | false =>
    match y with
    | .null => rfl
    | .sequence ys => rw [collect, leaves, collectAll_eq]
    | .mapping ps =>
      have hlist : isList ps = true := by simpa [isSingle] using hsingle
      rw [collect, leaves, if_pos hlist, if_pos hlist, collectItems_eq_mapM]

theorem collectAll_eq (ys : List Yaml) : collectAll ys = (leavesOfAll ys).mapM resource := by
  match ys with
  | [] => rfl
  | y :: ys => rw [collectAll, leavesOfAll, List.mapM_append, collect_eq y, collectAll_eq ys]

theorem collectItems_eq_mapM (ps : List (Yaml × Yaml)) : collectItems ps = (leavesOfItems ps).mapM resource := by
  match ps with
  | [] => rfl
  | (k, v) :: ps =>
    rw [collectItems, leavesOfItems]
    split
    · exact collect_eq v
    · exact collectItems_eq_mapM ps

end

/-- What comes of each leaf of some documents, from left to right. A document that is no YAML is a failure of its
own. -/
def outcomes (ds : List (Except Yaml.Error Yaml)) : List (Except TemplateError DynamicObject) :=
  ds.flatMap fun
    | .error e => [.error (.parse e.message)]
    | .ok y => (leaves y).map resource

theorem outcomes_append (ds es : List (Except Yaml.Error Yaml)) : outcomes (ds ++ es) = outcomes ds ++ outcomes es :=
  List.flatMap_append

theorem outcomes_ok (ys : List Yaml) : outcomes (ys.map .ok) = (ys.flatMap leaves).map resource := by
  rw [outcomes, List.flatMap_map, List.map_flatMap]

theorem collectRead_eq (ds : List (Except Yaml.Error Yaml)) : collectRead ds = (outcomes ds).mapM id := by
  induction ds with
  | nil => rfl
  | cons d ds ih =>
    cases d with
    | error e => exact (mapM_id_error [] _ _).symm
    | ok y =>
      rw [collectRead, ih, collect_eq, outcomes, outcomes, List.flatMap_cons, List.mapM_append, List.mapM_map]
      rfl

/-- Documents are collected alike in any groups, nested to any depth and between any other documents, and some
documents after others like both by themselves. A manifest gives what is read of its leaves, and fails exactly if some
leaf or some document cannot be read, with the first such failure. -/
theorem parse_leaves :
    (∀ {xs ys : List Yaml}, Regrouped xs ys → ∀ before after,
      collectRead (before ++ xs.map .ok ++ after) = collectRead (before ++ ys.map .ok ++ after)) ∧
    (∀ {ys : List Yaml} {ps : List (Yaml × Yaml)}, isList ps = true →
      Yaml.field? ps "items" = some (.sequence ys) → Regrouped [.sequence ys] ys ∧ Regrouped [.mapping ps] ys) ∧
    (∀ {xs ys : List Yaml}, Regrouped xs ys → Regrouped [.sequence xs] [.sequence ys]) ∧
    (∀ y, Regrouped [y] (leaves y) ∧ ∀ leaf ∈ leaves y, isSingle leaf = true) ∧
    (∀ text os, parse text = .ok os ↔ outcomes (Yaml.allOfText text) = os.map .ok) ∧
    (∀ text e, parse text = .error e ↔ ∃ (os : List DynamicObject) (rest : List (Except TemplateError DynamicObject)),
      outcomes (Yaml.allOfText text) = os.map .ok ++ .error e :: rest) ∧
    ∀ ds es, collectRead (ds ++ es) = do return (← collectRead ds) ++ (← collectRead es) := by
  refine ⟨?_, ?_, Regrouped.inSequence, regrouped_leaves, ?_, ?_, ?_⟩
  · intro xs ys h before after
    simp only [collectRead_eq, outcomes_append, outcomes_ok, h.flatMap_leaves]
  · intro ys ps hlist hitems
    exact ⟨.sequence ys, Regrouped.items hlist hitems⟩
  · intro text os
    rw [parse, collectRead_eq, mapM_id_eq_ok]
  · intro text e
    rw [parse, collectRead_eq, mapM_id_eq_error]
  · intro ds es
    rw [collectRead_eq, collectRead_eq, collectRead_eq, outcomes_append, List.mapM_append]

/-- A configuration map of a given name. -/
def named (name : String) : Yaml :=
  .mapping [(.string "apiVersion", .string "v1"), (.string "kind", .string "ConfigMap"),
    (.string "metadata", .mapping [(.string "name", .string name)])]

def listOf (ys : List Yaml) : List (Yaml × Yaml) :=
  [(.string "kind", .string "List"), (.string "items", .sequence ys)]

/-- Two documents are collected like a sequence with a list in it. -/
theorem parse_leaves_nested :
    let apart : List (Except Yaml.Error Yaml) := [.ok (named "one"), .ok (named "two")]
    collectRead [.ok (.sequence [named "one", .mapping (listOf [.null, named "two"])])] = collectRead apart ∧
      (collectRead apart).toOption.map (·.map fun o => o.metadata.name) = some [some "one", some "two"] := by
  intro apart
  obtain ⟨hcollect, hgroups, -⟩ := parse_leaves
  have hlist : Regrouped [.mapping (listOf [.null, named "two"])] [named "two"] :=
    (hgroups rfl rfl).2.trans (Regrouped.null.append (.refl [named "two"]))
  have hnested : Regrouped [.sequence [named "one", .mapping (listOf [.null, named "two"])]]
      [named "one", named "two"] :=
    (Regrouped.sequence _).trans ((Regrouped.refl [named "one"]).append hlist)
  exact ⟨hcollect hnested [] [], rfl⟩

end Manifest

end Reconciliation
