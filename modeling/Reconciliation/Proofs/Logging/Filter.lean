import Mathlib.Data.List.Pairwise
import Mathlib.Data.List.Sort
import Reconciliation.Logging.Filter
import Reconciliation.Proofs.Logging.Directive
import Reconciliation.Proofs.Text.LowerCase
/-!
# What a filter lets through

Directives are in order by how specific they are, and of two that are equal in it a filter keeps the later one. The
kept directives stand with the more specific ones first, so that an entry is let through by the most specific directive
that selects it (`allows_iff`). The bound of a filter covers all that it lets through (`allows_bound`): an entry beyond
the bound need not be shown to the filter.
-/

namespace Reconciliation

open Std (OrientedCmp TransCmp)

/-! ### Verbosity -/

namespace Verbosity

variable {v w : Verbosity} {level : LogLevel}

theorem allows_of_rank_le (h : v.rank ≤ w.rank) (hv : v.allows level = true) : w.allows level = true := by
  rw [allows, decide_eq_true_eq] at hv ⊢
  exact Nat.le_trans hv h

theorem rank_le_full (v : Verbosity) : v.rank ≤ full.rank := by
  rcases v with - | level
  · exact Nat.zero_le _
  · cases level <;> decide

theorem rank_max (v w : Verbosity) : (v.max w).rank = Nat.max v.rank w.rank := by
  rw [max]
  split_ifs with h
  · exact (Nat.max_eq_right h).symm
  · exact (Nat.max_eq_left (Nat.le_of_not_le h)).symm

theorem rank_le_max_left (v w : Verbosity) : v.rank ≤ (v.max w).rank := by
  rw [rank_max]
  exact Nat.le_max_left _ _

theorem rank_le_max_right (v w : Verbosity) : w.rank ≤ (v.max w).rank := by
  rw [rank_max]
  exact Nat.le_max_right _ _

end Verbosity

/-! ### The order of directives -/

section Order

variable {α β : Type} {cmp : α → α → Ordering}

instance [TransCmp cmp] : TransCmp (compareOptional cmp) where
  eq_swap {a b} := by
    cases a <;> cases b <;> first | rfl | exact @OrientedCmp.eq_swap _ cmp _ _ _
  isLE_trans {a b c} hab hbc := by
    cases a <;> cases b <;> cases c <;>
      first | rfl | cases hab | cases hbc | exact @TransCmp.isLE_trans _ cmp _ _ _ _ hab hbc

/-- The order of things by what is read off them and may be missing. -/
def optionalOn (cmp : α → α → Ordering) (f : β → Option α) (a b : β) : Ordering :=
  compareOptional cmp (f a) (f b)

instance [TransCmp cmp] (f : β → Option α) : TransCmp (optionalOn cmp f) where
  eq_swap {a b} := @OrientedCmp.eq_swap _ (compareOptional cmp) _ (f a) (f b)
  isLE_trans {_ _ _} hab hbc := @TransCmp.isLE_trans _ (compareOptional cmp) _ _ _ _ hab hbc

end Order

namespace FieldValue

/-- The number that a value is, if it is one or a truth value. -/
def number : FieldValue → Int
  | bool b => b.toNat
  | float x => x.scaled
  | unsigned n => n
  | signed n => n
  | _ => 0

def word : FieldValue → String
  | pattern s => s
  | _ => ""

theorem compare_natCast (a b : Nat) : Ord.compare (a : Int) b = Ord.compare a b := by
  simp only [Ord.compare, compareOfLessAndEq, Int.ofNat_lt, Int.natCast_inj]

/-- Values are compared by their kind, and then as numbers and as words. -/
theorem compare_eq (a b : FieldValue) :
    compare a b =
      (Ord.compare a.rank b.rank).then ((Ord.compare a.number b.number).then (Ord.compare a.word b.word)) := by
  cases a <;> cases b
  case bool.bool a b => cases a <;> cases b <;> rfl
  case unsigned.unsigned a b => simp [compare, number, word, rank, compare_natCast]
  all_goals first | rfl | simp [compare, number, word, rank]

instance : TransCmp compare := by
  have heq : compare = compareLex (compareOn rank) (compareLex (compareOn number) (compareOn word)) :=
    funext fun a => funext fun b => compare_eq a b
  rw [heq]
  infer_instance

end FieldValue

instance : TransCmp FieldPattern.compare :=
  inferInstanceAs (TransCmp (compareLex (compareOn fun f : FieldPattern => f.value.isSome)
    (compareLex (compareOn FieldPattern.name) (optionalOn FieldValue.compare FieldPattern.value))))

namespace Directive

instance : TransCmp specificity :=
  inferInstanceAs (TransCmp
    (compareLex (optionalOn (compareOn String.utf8ByteSize) target)
      (compareLex (compareOn fun d : Directive => d.span.isSome)
        (compareLex (compareOn fun d : Directive => d.field.isSome)
          (compareLex (optionalOn Ord.compare target)
            (compareLex (optionalOn Ord.compare span) (optionalOn FieldPattern.compare field)))))))

variable {c d e : Directive} {ds : List Directive}

/-- Directives with the more specific ones first. -/
def Arranged (ds : List Directive) : Prop :=
  ds.Pairwise fun d e => specificity d e = .gt

theorem gt_of_arranged (h : Arranged (c :: ds)) (hd : specificity d c ≠ .lt) (he : e ∈ ds) : specificity d e = .gt :=
  TransCmp.gt_of_isGE_of_gt (Ordering.isGE_iff_ne_lt.2 hd) ((List.pairwise_cons.1 h).1 e he)

/-- A directive that is put in order takes the place of the one that is as specific, and leaves all others. -/
theorem mem_insert (h : Arranged ds) : e ∈ insert d ds ↔ e = d ∨ e ∈ ds ∧ specificity d e ≠ .eq := by
  induction ds with
  | nil => simp [insert]
  | cons c rest ih =>
    have hrest : specificity d c ≠ .lt → e ∈ rest → specificity d e ≠ .eq := fun hd he => by
      rw [gt_of_arranged h hd he]
      exact nofun
    have hfirst : e = c → specificity d e = specificity d c := fun he => he ▸ rfl
    have htail := ih (List.pairwise_cons.1 h).2
    cases hc : specificity d c <;> simp only [insert, hc, List.mem_cons] <;> grind

theorem arranged_insert (h : Arranged ds) : Arranged (insert d ds) := by
  induction ds with
  | nil => exact List.pairwise_singleton _ _
  | cons c rest ih =>
    obtain ⟨hfirst, hrest⟩ := List.pairwise_cons.1 h
    cases hc : specificity d c with
    | lt =>
      simp only [insert, hc]
      refine List.pairwise_cons.2 ⟨fun e he => ?_, ih hrest⟩
      rcases (mem_insert hrest).1 he with rfl | ⟨he, -⟩
      · exact OrientedCmp.gt_of_lt hc
      · exact hfirst e he
    | eq =>
      simp only [insert, hc]
      exact List.pairwise_cons.2 ⟨fun e he => gt_of_arranged h (by simp [hc]) he, hrest⟩
    | gt =>
      simp only [insert, hc]
      refine List.pairwise_cons.2 ⟨fun e he => ?_, h⟩
      rcases List.mem_cons.1 he with rfl | he
      · exact hc
      · exact gt_of_arranged h (by simp [hc]) he

theorem arrange_append_singleton (ds : List Directive) (d : Directive) : arrange (ds ++ [d]) = insert d (arrange ds) := by
  simp only [arrange, List.foldl_append, List.foldl_cons, List.foldl_nil]

theorem arranged_arrange (ds : List Directive) : Arranged (arrange ds) := by
  induction ds using List.reverseRecOn with
  | nil => exact .nil
  | append_singleton ds d ih =>
    rw [arrange_append_singleton]
    exact arranged_insert ih

/-- What is left of directives that are put in order: each that no later one is as specific as. -/
theorem mem_arrange :
    d ∈ arrange ds ↔ ∃ before after, ds = before ++ d :: after ∧ ∀ e ∈ after, specificity e d ≠ .eq := by
  induction ds using List.reverseRecOn with
  | nil => simp [arrange]
  | append_singleton ds c ih =>
    rw [arrange_append_singleton, mem_insert (arranged_arrange ds), ih]
    constructor
    · rintro (rfl | ⟨⟨before, after, rfl, hafter⟩, hc⟩)
      · exact ⟨ds, [], rfl, nofun⟩
      · refine ⟨before, after ++ [c], by simp, fun e he => ?_⟩
        rcases List.mem_append.1 he with he | he
        · exact hafter e he
        · rwa [List.mem_singleton.1 he]
    · rintro ⟨before, after, heq, hafter⟩
      induction after using List.reverseRecOn with
      | nil => exact .inl (List.append_inj_right' heq rfl |> List.singleton_inj.1).symm
      | append_singleton after b _ =>
        rw [← List.cons_append, ← List.append_assoc] at heq
        obtain ⟨rfl, hb⟩ := List.append_inj' heq rfl
        obtain rfl := List.singleton_inj.1 hb
        exact .inr ⟨⟨before, after, rfl, fun e he => hafter e (List.mem_append_left _ he)⟩,
          hafter c List.mem_concat_self⟩

theorem exists_mem_arrange (h : d ∈ ds) : ∃ e ∈ arrange ds, specificity e d = .eq := by
  induction ds using List.reverseRecOn with
  | nil => cases h
  | append_singleton ds c ih =>
    rw [arrange_append_singleton]
    have hinsert := fun e => mem_insert (d := c) (e := e) (arranged_arrange ds)
    rcases List.mem_append.1 h with h | h
    · obtain ⟨e, he, heq⟩ := ih h
      by_cases hc : specificity c e = .eq
      · exact ⟨c, (hinsert c).2 (.inl rfl), TransCmp.eq_trans hc heq⟩
      · exact ⟨e, (hinsert e).2 (.inr ⟨he, hc⟩), heq⟩
    · exact ⟨c, (hinsert c).2 (.inl rfl), by rw [List.mem_singleton.1 h]; exact Std.ReflCmp.compare_self⟩

theorem eq_of_arranged (h : Arranged ds) (hd : d ∈ ds) (he : e ∈ ds) (heq : specificity d e = .eq) : d = e := by
  have hpairs : ds.Pairwise fun d e => specificity d e = .eq → d = e :=
    h.imp fun hgt heq => absurd (heq.symm.trans hgt) (by decide)
  have : Std.Symm fun d e => specificity d e = .eq → d = e :=
    ⟨fun _ _ hab hba => (hab (OrientedCmp.eq_comm.1 hba)).symm⟩
  exact List.Pairwise.forall_of_forall (fun _ _ _ => rfl) hpairs hd he heq

theorem eq_of_arranged_of_mem_iff {es : List Directive} (hd : Arranged ds) (he : Arranged es)
    (h : ∀ d, d ∈ ds ↔ d ∈ es) : ds = es := by
  have : Std.Antisymm fun d e => specificity d e = .gt :=
    ⟨fun _ _ hab hba => absurd hba (OrientedCmp.not_gt_of_gt hab)⟩
  have : Std.Irrefl fun d e => specificity d e = .gt :=
    ⟨fun _ haa => absurd haa (OrientedCmp.not_gt_of_gt haa)⟩
  exact List.Pairwise.eq_of_mem_iff hd he h

/-- Directives that are in order are not changed by being put in order, not even with some of them given again. -/
theorem arrange_eq_of_mem_iff {es : List Directive} (he : Arranged es) (h : ∀ d, d ∈ ds ↔ d ∈ es) : arrange ds = es := by
  have hmem : ∀ d, d ∈ arrange ds → d ∈ ds := by
    intro d hd
    obtain ⟨before, after, rfl, -⟩ := mem_arrange.1 hd
    exact List.mem_append_right _ List.mem_cons_self
  refine eq_of_arranged_of_mem_iff (arranged_arrange ds) he fun d => ⟨fun hd => (h d).1 (hmem d hd), fun hd => ?_⟩
  obtain ⟨e, hmost, heq⟩ := exists_mem_arrange ((h d).2 hd)
  rwa [← eq_of_arranged he ((h e).1 (hmem e hmost)) hd heq]

/-- What holds of all directives that select the same, or of none of them, may be asked before or after. -/
theorem arrange_filter {p : Directive → Bool} (hp : ∀ d e, specificity d e = .eq → p d = p e) (ds : List Directive) :
    (arrange ds).filter p = arrange (ds.filter p) := by
  induction ds using List.reverseRecOn with
  | nil => rfl
  | append_singleton ds c ih =>
    have harranged := arranged_arrange ds
    rw [arrange_append_singleton, List.filter_append]
    cases hc : p c with
    | true =>
      rw [List.filter_cons_of_pos hc, List.filter_nil, arrange_append_singleton, ← ih]
      refine eq_of_arranged_of_mem_iff ((arranged_insert harranged).sublist List.filter_sublist)
        (arranged_insert (harranged.sublist List.filter_sublist)) fun e => ?_
      rw [List.mem_filter, mem_insert harranged, mem_insert (harranged.sublist List.filter_sublist), List.mem_filter]
      grind
    | false =>
      rw [List.filter_cons_of_neg (by simp [hc]), List.filter_nil, List.append_nil, ← ih]
      refine eq_of_arranged_of_mem_iff ((arranged_insert harranged).sublist List.filter_sublist)
        (harranged.sublist List.filter_sublist) fun e => ?_
      rw [List.mem_filter, mem_insert harranged, List.mem_filter]
      grind

theorem isContextual_eq (h : specificity d e = .eq) : d.isContextual = e.isContextual := by
  simp only [specificity, Ordering.then_eq_eq, Std.LawfulEqOrd.compare_eq_iff_eq] at h
  obtain ⟨-, hspan, hfield, -⟩ := h
  rw [isContextual, isContextual, hspan, hfield]

theorem isStatic_eq (h : specificity d e = .eq) : d.isStatic = e.isStatic := by
  simp only [specificity, Ordering.then_eq_eq, Std.LawfulEqOrd.compare_eq_iff_eq] at h
  obtain ⟨-, hspan, -, -, -, hpattern⟩ := h
  have hvalue : d.hasValue = e.hasValue := by
    rw [hasValue, hasValue]
    revert hpattern
    cases d.field <;> cases e.field <;> simp [compareOptional, FieldPattern.compare, Ordering.then_eq_eq]
    grind
  rw [isStatic, isStatic, hvalue, ← Option.not_isSome, ← Option.not_isSome, hspan]

end Directive

/-! ### Filters -/

namespace LogFilter

variable {d : Directive} (f : LogFilter) {target : String} {level : LogLevel}

theorem mem_directives_of_mem_statics (h : d ∈ f.statics) : d ∈ f.directives := by
  obtain ⟨before, after, heq, -⟩ := Directive.mem_arrange.1 h
  have hmem : d ∈ f.directives.filter (!·.isContextual) ++
      f.directives.filter (fun d => d.isContextual && d.isStatic) := by
    rw [heq]
    exact List.mem_append_right _ List.mem_cons_self
  rcases List.mem_append.1 hmem with hmem | hmem <;> exact (List.mem_filter.1 hmem).1

/-- An entry is let through by the most specific directive that selects it. -/
theorem allows_iff :
    f.allows target level = true ↔ ∃ d ∈ f.statics, selects target d = true ∧ d.level.allows level = true ∧
      ∀ e ∈ f.statics, selects target e = true → e = d ∨ Directive.specificity d e = .gt := by
  have harranged : Directive.Arranged f.statics := Directive.arranged_arrange _
  have hfirst : ∀ d, f.statics.find? (selects target) = some d →
      ∀ e ∈ f.statics, selects target e = true → e = d ∨ Directive.specificity d e = .gt := by
    intro d hd e he hselects
    obtain ⟨-, before, after, heq, hbefore⟩ := List.find?_eq_some_iff_append.1 hd
    rw [heq] at he harranged
    rcases List.mem_append.1 he with he | he
    · have hnot := hbefore e he
      rw [hselects] at hnot
      cases hnot
    · rcases List.mem_cons.1 he with rfl | he
      · exact .inl rfl
      · exact .inr ((List.pairwise_cons.1 (List.pairwise_append.1 harranged).2.1).1 e he)
  rw [allows]
  constructor
  · intro h
    cases hd : f.statics.find? (selects target) with
    | none =>
      rw [hd] at h
      cases h
    | some d =>
      rw [hd] at h
      exact ⟨d, List.mem_of_find?_eq_some hd, List.find?_some hd, h, hfirst d hd⟩
  · rintro ⟨d, hd, hselects, hallows, hmost⟩
    cases hc : f.statics.find? (selects target) with
    | none =>
      exact absurd hselects (List.find?_eq_none.1 hc d hd)
    | some c =>
      -- Neither of the two is more specific than the other, so they are the same directive.
      rcases hmost c (List.mem_of_find?_eq_some hc) (List.find?_some hc) with rfl | hgt
      · exact hallows
      · rcases hfirst c hc d hd hselects with rfl | hgt'
        · exact hallows
        · exact absurd hgt' (OrientedCmp.not_gt_of_gt hgt)

theorem rank_le_foldl_max (ds : List Directive) {v w : Verbosity} (h : w.rank ≤ v.rank ∨ ∃ d ∈ ds, d.level = w) :
    w.rank ≤ (ds.foldl (fun v d => v.max d.level) v).rank := by
  induction ds generalizing v with
  | nil => simpa using h
  | cons c rest ih =>
    refine ih ?_
    rcases h with h | ⟨d, hd, rfl⟩
    · exact .inl (Nat.le_trans h (Verbosity.rank_le_max_left _ _))
    · rcases List.mem_cons.1 hd with rfl | hd
      · exact .inl (Verbosity.rank_le_max_right _ _)
      · exact .inr ⟨d, hd, rfl⟩

theorem rank_level_le_bound (h : d ∈ f.directives) : d.level.rank ≤ f.bound.rank := by
  rw [bound]
  split_ifs
  · exact d.level.rank_le_full
  · exact rank_le_foldl_max _ (.inr ⟨d, h, rfl⟩)

/-- What a filter lets through is within its bound. -/
theorem allows_bound (h : f.allows target level = true) : f.bound.allows level = true := by
  obtain ⟨d, hd, -, hallows, -⟩ := f.allows_iff.1 h
  exact Verbosity.allows_of_rank_le (f.rank_level_le_bound (f.mem_directives_of_mem_statics hd)) hallows

/-- A configured level is read in lower case. -/
theorem ofLevel_lowerCase (level : String) : ofLevel (Text.lowerCase level) = ofLevel level := by
  rw [ofLevel, Text.lowerCase_lowerCase, ← ofLevel]

/-- A level by its word, in any case of its letters, lets through what the level does, for every target. -/
theorem allows_ofLevel {s : String} {v : Verbosity} (h : Text.lowerCase s = v.name) :
    (ofLevel s).allows target level = v.allows level := by
  have hread : ofLevel s = ⟨[{ level := v }]⟩ := by
    have hparts : parts v.name = [v.name.toList] := by
      rcases v with - | l
      · decide
      · cases l <;> decide
    rw [ofLevel, h, hparts, List.filterMap_cons, Directive.ofChars?_level]
    rfl
  rw [hread]
  rfl

example : ofLevel "Warn" = ⟨[{ level := .upTo .warn }]⟩ := by
  decide +kernel

/-! ### Reading a filter back -/

theorem mem_contextuals (h : d ∈ f.contextuals) : d ∈ f.directives ∧ d.isContextual = true := by
  obtain ⟨before, after, heq, -⟩ := Directive.mem_arrange.1 h
  exact List.mem_filter.1 (heq ▸ List.mem_append_right _ List.mem_cons_self)

/-- The contextual directives that apply to entries are the static ones of all contextual directives. -/
theorem filter_statics : f.statics.filter Directive.isContextual = f.contextuals.filter Directive.isStatic := by
  rw [statics, contextuals, Directive.arrange_filter fun _ _ => Directive.isContextual_eq,
    Directive.arrange_filter fun _ _ => Directive.isStatic_eq]
  have hnone : f.directives.filter (fun d => d.isContextual && !d.isContextual) = [] := by
    rw [List.filter_eq_nil_iff]
    intro d _
    simp
  have hboth : ∀ d : Directive, (d.isContextual && (d.isContextual && d.isStatic)) = (d.isStatic && d.isContextual) := by
    intro d
    cases d.isContextual <;> cases d.isStatic <;> rfl
  rw [List.filter_append, List.filter_filter, List.filter_filter, List.filter_filter, hnone, List.nil_append]
  simp only [hboth]

theorem mem_statics_of_isStatic (h : d ∈ f.contextuals) (hd : d.isStatic = true) : d ∈ f.statics := by
  have hmem : d ∈ f.statics.filter Directive.isContextual := by
    rw [filter_statics]
    exact List.mem_filter.2 ⟨h, hd⟩
  exact (List.mem_filter.1 hmem).1

theorem mem_contextuals_of_isContextual (h : d ∈ f.statics) (hd : d.isContextual = true) :
    d ∈ f.contextuals ∧ d.isStatic = true := by
  have hmem : d ∈ f.contextuals.filter Directive.isStatic := by
    rw [← filter_statics]
    exact List.mem_filter.2 ⟨h, hd⟩
  exact List.mem_filter.1 hmem

/-- The directives of a filter, in the order in which it writes them. -/
def written (f : LogFilter) : LogFilter :=
  ⟨f.statics ++ f.contextuals⟩

theorem statics_written : f.written.statics = f.statics := by
  refine Directive.arrange_eq_of_mem_iff (Directive.arranged_arrange _) fun d => ?_
  have hcontextual := fun h => (f.mem_contextuals (d := d) h).2
  have hstatic := f.mem_statics_of_isStatic (d := d)
  have hboth := f.mem_contextuals_of_isContextual (d := d)
  simp only [written, List.mem_append, List.mem_filter, Bool.and_eq_true, Bool.not_eq_true']
  grind

theorem contextuals_written : f.written.contextuals = f.contextuals := by
  refine Directive.arrange_eq_of_mem_iff (Directive.arranged_arrange _) fun d => ?_
  have hcontextual := fun h => (f.mem_contextuals (d := d) h).2
  have hboth := f.mem_contextuals_of_isContextual (d := d)
  simp only [written, List.mem_append, List.mem_filter]
  grind

theorem written_ne_nil (h : f.directives ≠ []) : f.written.directives ≠ [] := by
  obtain ⟨d, hd⟩ := List.exists_mem_of_ne_nil _ h
  suffices hmem : ∃ e, e ∈ f.written.directives by
    obtain ⟨e, he⟩ := hmem
    exact List.ne_nil_of_mem he
  cases hcontextual : d.isContextual with
  | true =>
    obtain ⟨e, he, -⟩ := Directive.exists_mem_arrange (List.mem_filter.2 ⟨hd, hcontextual⟩)
    exact ⟨e, List.mem_append_right _ he⟩
  | false =>
    have hplain : d ∈ f.directives.filter (!·.isContextual) := List.mem_filter.2 ⟨hd, by rw [hcontextual]; rfl⟩
    obtain ⟨e, he, -⟩ := Directive.exists_mem_arrange (List.mem_append_left
      (f.directives.filter fun d => d.isContextual && d.isStatic) hplain)
    exact ⟨e, List.mem_append_left _ he⟩

theorem mapM_ofChars?_text {ds : List Directive} (h : ∀ d ∈ ds, d.Readable) :
    (ds.map fun d => d.text.toList).mapM Directive.ofChars? = some ds := by
  induction ds with
  | nil => rfl
  | cons d rest ih =>
    rw [List.map_cons, List.mapM_cons, Directive.ofChars?_text (h d List.mem_cons_self),
      ih fun e he => h e (List.mem_cons_of_mem d he)]
    rfl

theorem parts_text (h : ∀ d ∈ f.written.directives, ',' ∉ d.text.toList) (hne : f.directives ≠ []) :
    parts f.text = f.written.directives.map fun d => d.text.toList := by
  have htext : f.text.toList = [','].intercalate (f.written.directives.map fun d => d.text.toList) := by
    rw [text, String.toList_intercalate, List.map_map]
    rfl
  rw [parts, htext, List.splitOn_intercalate]
  · refine List.filter_eq_self.2 fun cs hcs => ?_
    obtain ⟨d, -, rfl⟩ := List.mem_map.1 hcs
    simpa using d.toList_text_ne_nil
  · intro cs hcs
    obtain ⟨d, hd, rfl⟩ := List.mem_map.1 hcs
    exact h d hd
  · rw [Ne, List.map_eq_nil_iff]
    exact f.written_ne_nil hne

/-- A filter that was written down lets through what it did, if its directives can be told apart in the text. -/
theorem ofText?_text (hne : f.directives ≠ []) (h : ∀ d ∈ f.directives, d.Readable ∧ ',' ∉ d.text.toList) :
    ∃ g, ofText? f.text = some g ∧ g.statics = f.statics ∧ g.contextuals = f.contextuals ∧
      ∀ target level, g.allows target level = f.allows target level := by
  have hwritten : ∀ d ∈ f.written.directives, d.Readable ∧ ',' ∉ d.text.toList := by
    intro d hd
    rcases List.mem_append.1 hd with hd | hd
    · exact h d (f.mem_directives_of_mem_statics hd)
    · exact h d (f.mem_contextuals hd).1
  refine ⟨f.written, ?_, f.statics_written, f.contextuals_written, fun target level => ?_⟩
  · rw [ofText?, f.parts_text (fun d hd => (hwritten d hd).2) hne, mapM_ofChars?_text fun d hd => (hwritten d hd).1,
      Option.map_some, ofDirectives, if_neg (by simpa using f.written_ne_nil hne)]
  · rw [allows, allows, statics_written]

end LogFilter

end Reconciliation
