import Reconciliation.Proofs.Json.Decode
import Reconciliation.Template.Render
/-!
# Manifests that fail

A document fails if any resource in it cannot be read, in however many sequences and lists it is nested
(`Manifest.Faulty`). Of a manifest one such document is enough, wherever it stands, and of a template that it cannot be
rendered at all (`Template.Fails`).
-/

namespace Reconciliation

namespace Manifest

/-- Whether a document is to be one resource: not nothing, a sequence or a list. -/
def isSingle : Yaml → Bool
  | .null | .sequence _ => false
  | .mapping ps => !isList ps
  | _ => true

/-- Whether some resource in a document cannot be read. -/
inductive Faulty : Yaml → Prop
  | single {y : Yaml} {e : TemplateError} (isSingle : isSingle y = true) (unread : resource y = .error e) : Faulty y
  | sequence {ys : List Yaml} {y : Yaml} (item : y ∈ ys) (faulty : Faulty y) : Faulty (.sequence ys)
  | list {ps : List (Yaml × Yaml)} {items : Yaml} (isList : isList ps = true)
      (found : Yaml.field? ps "items" = some items) (faulty : Faulty items) : Faulty (.mapping ps)

theorem collect_single {y : Yaml} (h : isSingle y = true) : collect y = (resource y).map ([·]) := by
  cases y with
  | null | sequence ys => cases h
  | mapping ps =>
    have hlist : isList ps = false := by simpa [isSingle] using h
    rw [collect, hlist]
    rfl
  | _ => simp only [collect]

theorem collectItems_eq (ps : List (Yaml × Yaml)) :
    collectItems ps = match Yaml.field? ps "items" with
      | none => .ok []
      | some items => collect items := by
  induction ps with
  | nil => rfl
  | cons p ps ih =>
    obtain ⟨k, v⟩ := p
    rw [collectItems, Yaml.field?, List.find?_cons]
    cases hk : k.same (.string "items") with
    | true => rfl
    | false => exact ih

/-- The first of two fails, or else the second. -/
theorem append_eq_error {x y : Except TemplateError (List DynamicObject)} :
    (∃ e, (do return (← x) ++ (← y)) = Except.error e) ↔ (∃ e, x = .error e) ∨ ∃ e, y = .error e := by
  cases x <;> cases y <;> simp [bind, Except.bind, pure, Except.pure]

theorem collectAll_eq_error {ys : List Yaml} :
    (∃ e, collectAll ys = .error e) ↔ ∃ y ∈ ys, ∃ e, collect y = .error e := by
  induction ys with
  | nil => simp [collectAll]
  | cons y ys ih => rw [collectAll, append_eq_error, ih, List.exists_mem_cons_iff]

theorem collect_error_of_faulty {y : Yaml} (h : Faulty y) : ∃ e, collect y = .error e := by
  induction h with
  | single hsingle hunread => exact ⟨_, by rw [collect_single hsingle, hunread]; rfl⟩
  | sequence hitem _ ih =>
    rw [collect]
    exact collectAll_eq_error.2 ⟨_, hitem, ih⟩
  | list hlist hfound _ ih =>
    rw [collect, if_pos hlist, collectItems_eq, hfound]
    exact ih

theorem sizeOf_items {ps : List (Yaml × Yaml)} {items : Yaml} (h : Yaml.field? ps "items" = some items) :
    sizeOf items < sizeOf ps := by
  obtain ⟨⟨k, v⟩, hp, rfl⟩ := Option.map_eq_some_iff.1 h
  have hmember := List.sizeOf_lt_of_mem (List.mem_of_find?_eq_some hp)
  rw [Prod.mk.sizeOf_spec] at hmember
  show sizeOf v < sizeOf ps
  omega

theorem faulty_of_collect_error (y : Yaml) (h : ∃ e, collect y = .error e) : Faulty y := by
  cases hsingle : isSingle y with
  | true =>
    obtain ⟨e, h⟩ := h
    rw [collect_single hsingle] at h
    cases hread : resource y with
    | ok d =>
      rw [hread] at h
      cases h
    | error e => exact .single hsingle hread
  | false =>
    match y with
    | .null =>
      obtain ⟨e, h⟩ := h
      rw [collect] at h
      cases h
    | .sequence ys =>
      rw [collect] at h
      obtain ⟨y, hy, h⟩ := collectAll_eq_error.1 h
      exact .sequence hy (faulty_of_collect_error y h)
    | .mapping ps =>
      have hlist : isList ps = true := by simpa [isSingle] using hsingle
      rw [collect, if_pos hlist, collectItems_eq] at h
      cases hfound : Yaml.field? ps "items" with
      | none =>
        rw [hfound] at h
        obtain ⟨e, h⟩ := h
        cases h
      | some items =>
        rw [hfound] at h
        exact .list hlist hfound (faulty_of_collect_error items h)
-- The items of a list are found among its pairs, which no case of the recursion on a document names.
termination_by sizeOf y
decreasing_by
  · have hitem := List.sizeOf_lt_of_mem hy
    rw [Yaml.sequence.sizeOf_spec]
    omega
  · have hitems := sizeOf_items hfound
    rw [Yaml.mapping.sizeOf_spec]
    omega

/-- A document fails exactly if some resource in it cannot be read. -/
theorem collect_eq_error {y : Yaml} : (∃ e, collect y = .error e) ↔ Faulty y :=
  ⟨faulty_of_collect_error y, collect_error_of_faulty⟩

theorem collectRead_eq_error {ys : List (Except Yaml.Error Yaml)} :
    (∃ e, collectRead ys = .error e) ↔ (∃ e, .error e ∈ ys) ∨ ∃ y, .ok y ∈ ys ∧ Faulty y := by
  induction ys with
  | nil => simp [collectRead]
  | cons first ys ih =>
    cases first with
    | error e => simp [collectRead]
    | ok y =>
      rw [collectRead, append_eq_error, ih, collect_eq_error]
      simp only [List.mem_cons, reduceCtorEq, false_or, Except.ok.injEq, or_and_right, exists_or, exists_eq_left]
      exact or_left_comm

end Manifest

namespace Template

variable {t : Template} {data : Json}

/-- Whether a template gives no resources for some data: it cannot be rendered, or some document of what it renders to
cannot be read, or some resource in a document. -/
inductive Fails (t : Template) (data : Json) : Prop
  | rendering {e : TemplateError} (unrendered : t.render data = .error e) : Fails t data
  | reading {text : String} {e : Yaml.Error} (rendered : t.render data = .ok text)
      (document : .error e ∈ Yaml.allOfText text) : Fails t data
  | collecting {text : String} {y : Yaml} (rendered : t.render data = .ok text)
      (document : .ok y ∈ Yaml.allOfText text) (faulty : Manifest.Faulty y) : Fails t data

theorem resources_eq_error : (∃ e, t.resources data = .error e) ↔ t.Fails data := by
  rw [resources]
  cases hrendered : t.render data with
  | error e => exact ⟨fun _ => .rendering hrendered, fun _ => ⟨e, rfl⟩⟩
  | ok text =>
    rw [ok_bind, Manifest.parse, Manifest.collectRead_eq_error]
    constructor
    · rintro (⟨e, he⟩ | ⟨y, hy, hfaulty⟩)
      · exact .reading hrendered he
      · exact .collecting hrendered hy hfaulty
    · rintro (h | ⟨h, he⟩ | ⟨h, hy, hfaulty⟩)
      · cases hrendered.symm.trans h
      · cases hrendered.symm.trans h
        exact .inl ⟨_, he⟩
      · cases hrendered.symm.trans h
        exact .inr ⟨_, hy, hfaulty⟩

end Template

end Reconciliation
