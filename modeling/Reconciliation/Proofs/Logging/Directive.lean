import Mathlib.Data.List.TakeWhile
import Reconciliation.Logging.Directive
import Reconciliation.Proofs.Text.Alphanumeric
import Reconciliation.Proofs.Text.Numeral
/-!
# Reading a directive back

A directive is read from its own text (`ofChars?_text`), as far as its parts can be told apart in it: no part has the
sign in it that ends the part. It comes down to one step for each part, which finds the part up to its sign and leaves
the rest. The last part is always a level, and so there is no blank at the end of the text that would not count.

Of the values of fields, numbers with a fraction are left out.
-/

namespace Reconciliation

namespace Pattern

/-- A character that has no meaning of its own in a pattern, or none that needs others. -/
def isPlain (c : Char) : Bool :=
  !(['(', ')', '[', '\x7b', '\\', '?', '*', '+'].contains c)

/-- A pattern is well formed up to some place: it has Unicode and counts blanks, and no group is open. -/
def State.Closed (st : State) : Prop :=
  st.mode = {} ∧ st.around = []

theorem part?_of_isPlain {st : State} (hst : st.Closed) {c : Char} (hc : isPlain c = true) (rest : List Char) :
    ∃ st', st.part? c rest = some (st', rest) ∧ st'.Closed := by
  have hunicode : st.mode.unicode = true := by rw [hst.1]
  unfold State.part?
  split
  all_goals first
    | exact absurd hc (by decide)
    | exact ⟨_, rfl, hst⟩
    | exact ⟨_, if_pos hunicode, hst⟩

theorem accepts_of_isPlain {steps : Nat} {st : State} {cs : List Char} (hst : st.Closed)
    (h : ∀ c ∈ cs, isPlain c = true) (hsteps : cs.length < steps) : st.accepts steps cs = true := by
  induction cs generalizing steps st with
  | nil =>
    obtain ⟨n, rfl⟩ := Nat.exists_eq_succ_of_ne_zero (Nat.ne_of_gt hsteps)
    simp [State.accepts, hst.1, Mode.skip, hst.2]
  | cons c rest ih =>
    obtain ⟨n, rfl⟩ := Nat.exists_eq_succ_of_ne_zero (Nat.ne_of_gt (Nat.zero_lt_of_lt hsteps))
    obtain ⟨st', hpart, hst'⟩ := part?_of_isPlain hst (h c List.mem_cons_self) rest
    have hskip : st.mode.skip (c :: rest) = c :: rest := by rw [hst.1]; rfl
    simp only [State.accepts, hskip, hpart]
    exact ih hst' (fun d hd => h d (List.mem_cons_of_mem c hd)) (Nat.lt_of_succ_lt_succ hsteps)

/-- A text without signs of patterns is a pattern. -/
theorem isWellFormed_of_isPlain {s : String} (h : ∀ c ∈ s.toList, isPlain c = true) : isWellFormed s = true :=
  accepts_of_isPlain ⟨rfl, rfl⟩ h (Nat.lt_succ_of_le (Nat.le_of_eq String.length_toList))

end Pattern

namespace FieldValue

/-- A value whose text stands for it. -/
inductive Readable : FieldValue → Prop
  | bool (b : Bool) : Readable (.bool b)
  | undefined : Readable .undefined
  | unsigned {n : Nat} (h : n < Nat.pow 2 64) : Readable (.unsigned n)
  | signed {n : Nat} (hpos : 0 < n) (h : n ≤ Nat.pow 2 63) : Readable (.signed (-n))
  | pattern {s : String} (hbool : bool? s = none) (hwhole : whole? s = none) (hfloat : float? s = none)
    (h : Pattern.isWellFormed s = true) : Readable (.pattern s)

theorem bool?_eq_none {s : String} (h : ∀ c ∈ s.toList.head?, c ≠ 't' ∧ c ≠ 'f') : bool? s = none := by
  rw [bool?.eq_def]
  split
  · exact absurd rfl (h 't' rfl).1
  · exact absurd rfl (h 'f' rfl).2
  · rfl

theorem toList_toString (n : Nat) : (toString n).toList = Nat.toDigits 10 n :=
  String.toList_ofList

theorem toList_negative (n : Nat) : ("-" ++ toString n).toList = '-' :: Nat.toDigits 10 n := by
  rw [String.toList_append, toList_toString]
  rfl

theorem bool?_toString (n : Nat) : bool? (toString n) = none := by
  refine bool?_eq_none fun c hc => ?_
  rw [toList_toString] at hc
  have hdigit : c.isDigit = true :=
    Nat.isDigit_of_mem_toDigits (by decide) (by decide) (List.mem_of_mem_head? hc)
  constructor <;> rintro rfl <;> exact absurd hdigit (by decide)

theorem bool?_negative (n : Nat) : bool? ("-" ++ toString n) = none := by
  refine bool?_eq_none fun c hc => ?_
  rw [toList_negative] at hc
  rw [← Option.some.inj hc]
  decide

theorem whole?_negative {n : Nat} (h : n ≤ Nat.pow 2 63) : whole? ("-" ++ toString n) = some (.signed (-n)) := by
  have hword : Text.word64? ("-" ++ toString n) = none := by
    rw [Text.word64?, toList_negative]
    rfl
  have hdigits : (Nat.toDigits 10 n).all Char.isDigit = true :=
    List.all_eq_true.2 fun c hc => Nat.isDigit_of_mem_toDigits (by decide) (by decide) hc
  have hne : (Nat.toDigits 10 n).isEmpty = false := by
    rw [List.isEmpty_eq_false_iff]
    exact Nat.toDigits_ne_nil
  rw [whole?, hword, toList_negative]
  simp only [hdigits, hne, Text.decimalValue_toDigits, Bool.not_true, Bool.or_false, Bool.false_or, decide_eq_true_eq]
  exact if_neg (Nat.not_lt.2 h)

theorem ofText?_text {v : FieldValue} (h : v.Readable) : ofText? v.text = some v := by
  cases h with
  | bool b => cases b <;> rfl
  | undefined => decide +kernel
  | @unsigned n h =>
    have hword : Text.word64? (toString n) = some n := Text.word64?_eq_some_iff.2 ⟨Text.spells_toString n, h⟩
    have hwhole : whole? (toString n) = some (.unsigned n) := by rw [whole?, hword]
    rw [text, ofText?, bool?_toString, hwhole]
    rfl
  | @signed n hpos h =>
    have htext : text (.signed (-n)) = "-" ++ toString n := by
      obtain ⟨m, rfl⟩ := Nat.exists_eq_succ_of_ne_zero (Nat.ne_of_gt hpos)
      rfl
    rw [htext, ofText?, bool?_negative, whole?_negative h]
    rfl
  | pattern hbool hwhole hfloat h =>
    simp [ofText?, text, hbool, hwhole, hfloat, pattern?, h]

end FieldValue

/-! ### Signs that end a part -/

theorem takeWhile_append_cons {p : Char → Bool} {a : List Char} {c : Char} (ha : ∀ x ∈ a, p x = true) (hc : p c = false)
    (b : List Char) : (a ++ c :: b).takeWhile p = a ∧ (a ++ c :: b).dropWhile p = c :: b := by
  rw [List.takeWhile_append_of_pos ha, List.dropWhile_append_of_pos ha, List.takeWhile_cons_of_neg (by simp [hc]),
    List.dropWhile_cons_of_neg (by simp [hc]), List.append_nil]
  exact ⟨rfl, rfl⟩

namespace FieldPattern

/-- A field whose text stands for it: the name ends at the equals sign, and the value at the end. -/
structure Readable (f : FieldPattern) : Prop where
  name : '=' ∉ f.name.toList
  value : ∀ v ∈ f.value, v.Readable ∧ '=' ∉ v.text.toList

theorem ofChars?_text {f : FieldPattern} (h : f.Readable) : ofChars? f.text.toList = some f := by
  have hplain : ∀ cs : List Char, '=' ∉ cs → ∀ c ∈ cs, (!c == '=') = true := by
    intro cs hcs c hc
    simpa using fun heq : c = '=' => hcs (heq ▸ hc)
  obtain ⟨name, value⟩ := f
  have hname := hplain _ h.name
  cases value with
  | none =>
    have htext : (text ⟨name, none⟩).toList = name.toList := by simp [text]
    simp only [ofChars?, htext, List.dropWhile_eq_nil_iff.2 hname, List.takeWhile_eq_self_iff.2 hname,
      String.ofList_toList]
  | some v =>
    obtain ⟨hread, hvalue⟩ := h.value v rfl
    have htext : (text ⟨name, some v⟩).toList = name.toList ++ '=' :: v.text.toList := by simp [text]
    obtain ⟨htaken, hdropped⟩ := takeWhile_append_cons hname (c := '=') rfl v.text.toList
    simp only [ofChars?, htext, htaken, hdropped, List.takeWhile_eq_self_iff.2 (hplain _ hvalue),
      String.ofList_toList, FieldValue.ofText?_text hread, Option.map_some]

end FieldPattern

namespace Directive

theorem part_append {before a : List Char} {place : Nat} (h : before.length = place) (after : List Char) :
    part (before ++ (a ++ after)) place (place + a.length) = String.ofList a := by
  rw [part, List.drop_left' h, Nat.add_sub_cancel_left, List.take_left]

theorem upTo_append_cons {stops a : List Char} {c : Char} (ha : ∀ x ∈ a, x ∉ stops) (hc : c ∈ stops) (place : Nat)
    (b : List Char) : upTo stops place (a ++ c :: b) = (place + a.length, c :: b) := by
  have htaken : (a ++ c :: b).takeWhile (!stops.contains ·) = a :=
    (takeWhile_append_cons (fun x hx => by simpa using ha x hx) (by simpa using hc) b).1
  rw [upTo, htaken, List.drop_left]

/-- The levels are read from their words. -/
theorem ofText?_name (v : Verbosity) : Verbosity.ofText? v.name = some v := by
  rcases v with - | l
  · decide +kernel
  · cases l <;> decide +kernel

theorem isEmpty_name (v : Verbosity) : v.name.isEmpty = false := by
  rcases v with - | l
  · rfl
  · cases l <;> rfl

theorem toList_text_ne_nil (d : Directive) : d.text.toList ≠ [] := by
  rw [text, String.toList_append]
  refine List.append_ne_nil_of_right_ne_nil _ fun hempty => ?_
  have hname := isEmpty_name d.level
  rw [← String.ofList_toList (s := d.level.name), hempty] at hname
  exact absurd hname (by decide)

theorem levelPart?_name {before : List Char} {place : Nat} (h : before.length = place) (d : Directive)
    (v : Verbosity) : levelPart? (before ++ v.name.toList) place d = some { d with level := v } := by
  rw [levelPart?, List.drop_left' h, String.ofList_toList, isEmpty_name, ofText?_name]
  rfl

/-- A directive whose parts can be told apart in its text. -/
structure Readable (d : Directive) : Prop where
  target : ∀ t ∈ d.target, (∃ c ∈ t.toList.head?, startsWord c = true) ∧ ∀ c ∈ t.toList, c ∉ ['=', '[']
  span : ∀ s ∈ d.span, (d.field.isSome = true → s ≠ "") ∧ ∀ c ∈ s.toList, c ∉ [']', '\x7b']
  field : ∀ f ∈ d.field, f.Readable ∧ f.text ≠ "" ∧ ∀ c ∈ f.text.toList, c ∉ ['\x7d']

/-- The text after the opening bracket of a directive. -/
def contextText (d : Directive) : List Char :=
  (d.span.getD "").toList ++ (match d.field with
    | none => []
    | some f => '\x7b' :: (f.text.toList ++ ['\x7d'])) ++ ']' :: '=' :: d.level.name.toList

theorem spanPart?_contextText {d named : Directive} (h : d.Readable) (hd : d.isContextual = true)
    (hnamed : named = { target := d.target, level := .full }) {before : List Char} {place : Nat}
    (hplace : before.length = place) :
    spanPart? (before ++ d.contextText) place d.contextText named = some d := by
  obtain ⟨target, span, field, v⟩ := d
  subst hnamed
  cases field with
  | none =>
    cases span with
    | none => cases hd
    | some s =>
      have hs := (h.span s rfl).2
      have hcontext : contextText ⟨target, some s, none, v⟩ = s.toList ++ ']' :: '=' :: v.name.toList := by
        simp [contextText]
      have hbefore : before ++ (s.toList ++ ']' :: '=' :: v.name.toList) =
          (before ++ s.toList ++ [']', '=']) ++ v.name.toList := by simp
      rw [hcontext, spanPart?]
      simp only [upTo_append_cons hs (c := ']') (by decide), part_append hplace]
      rw [hbefore, afterSpan?, levelPart?_name (by simp [← hplace]; omega)]
      simp
  | some f =>
    obtain ⟨hf, hne, hclosed⟩ := h.field f rfl
    have hs : ∀ c ∈ (span.getD "").toList, c ∉ [']', '\x7b'] := by
      cases span with
      | none => exact nofun
      | some s => exact (h.span s rfl).2
    have hspan : (if (span.getD "").isEmpty then none else some (span.getD "")) = span := by
      cases span with
      | none => rfl
      | some s => simpa using (h.span s rfl).1 rfl
    generalize hword : span.getD "" = s at hs hspan
    have hcontext : contextText ⟨target, span, some f, v⟩ =
        s.toList ++ '\x7b' :: (f.text.toList ++ '\x7d' :: ']' :: '=' :: v.name.toList) := by
      simp [contextText, hword]
    have hfield : before ++ (s.toList ++ '\x7b' :: (f.text.toList ++ '\x7d' :: ']' :: '=' :: v.name.toList)) =
        (before ++ s.toList ++ ['\x7b']) ++ (f.text.toList ++ '\x7d' :: ']' :: '=' :: v.name.toList) := by simp
    have hlevel : (before ++ s.toList ++ ['\x7b']) ++ (f.text.toList ++ '\x7d' :: ']' :: '=' :: v.name.toList) =
        (before ++ s.toList ++ ['\x7b'] ++ f.text.toList ++ ['\x7d', ']', '=']) ++ v.name.toList := by simp
    have hopened : (before ++ s.toList ++ ['\x7b']).length = place + s.toList.length + 1 := by
      simp [← hplace, Nat.add_assoc]
    rw [hcontext, spanPart?]
    simp only [upTo_append_cons hs (c := '\x7b') (by decide), upTo_append_cons hclosed (c := '\x7d') (by decide),
      part_append hplace]
    rw [hfield, part_append hopened, hlevel]
    simp only [String.ofList_toList, FieldPattern.ofChars?_text hf, hspan]
    rw [if_neg (by simpa using hne), Option.bind_eq_bind, Option.bind_some, afterSpan?,
      levelPart?_name (by simp [← hplace]; omega)]

/-- A text that ends with a level has no blanks around it, if it has none at the beginning. -/
theorem trim_of_level {before : List Char} (v : Verbosity)
    (h : ∀ c ∈ (before ++ v.name.toList).head?, Text.isBlank c = false) :
    Text.trim (String.ofList (before ++ v.name.toList)) = String.ofList (before ++ v.name.toList) := by
  have hname : ∃ c, v.name.toList.getLast? = some c ∧ Text.isBlank c = false := by
    rcases v with - | l
    · exact ⟨'f', rfl, by decide⟩
    · cases l <;> exact ⟨_, rfl, by decide⟩
  obtain ⟨c, hlast, hc⟩ := hname
  refine Text.trim_eq_self (by rwa [String.toList_ofList]) fun d hd => ?_
  rw [String.toList_ofList, List.getLast?_append, hlast] at hd
  rwa [← Option.some.inj hd]

theorem isBlank_of_startsWord {c : Char} (h : startsWord c = true) : Text.isBlank c = false := by
  rw [Bool.eq_false_iff]
  intro hblank
  simp only [startsWord, Text.isAlphanumeric_of_isBlank hblank, Bool.false_or, Bool.or_eq_true, beq_iff_eq] at h
  rcases h with (rfl | rfl) | rfl <;> exact absurd hblank (by decide)

theorem ofChars?_level (v : Verbosity) : ofChars? v.name.toList = some { level := v } := by
  rcases v with - | l
  · decide +kernel
  · cases l <;> decide +kernel

/-- What follows a target decides how the rest of a directive is read. -/
theorem ofChars?_target {t : String} {c : Char} {rest : List Char} {v : Verbosity}
    (hfirst : ∃ c ∈ t.toList.head?, startsWord c = true) (hother : ∀ c ∈ t.toList, c ∉ ['=', '['])
    (hc : c ∈ ['=', '[']) (hlevel : ∃ before, c :: rest = before ++ v.name.toList) :
    ofChars? (t.toList ++ c :: rest) =
      if c = '=' then levelPart? (t.toList ++ c :: rest) (t.toList.length + 1) { target := some t, level := .full }
      else spanPart? (t.toList ++ c :: rest) (t.toList.length + 1) rest { target := some t, level := .full } := by
  obtain ⟨b, hb, hstarts⟩ := hfirst
  obtain ⟨bs, ht⟩ := List.head?_eq_some_iff.1 hb
  obtain ⟨before, hbefore⟩ := hlevel
  have hshape : (Text.trim (String.ofList (t.toList ++ c :: rest))).toList = t.toList ++ c :: rest := by
    have htrim := @trim_of_level (t.toList ++ before) v
    rw [List.append_assoc, ← hbefore, ht] at htrim
    rw [ht, htrim fun d hd => Option.some.inj hd ▸ isBlank_of_startsWord hstarts, String.toList_ofList]
  have htarget : part (t.toList ++ c :: rest) 0 (0 + t.toList.length) = t := by
    have hpart := @part_append [] t.toList 0 rfl (c :: rest)
    rwa [String.ofList_toList] at hpart
  have hup := upTo_append_cons hother hc 0 rest
  rw [ofChars?]
  simp only [hshape]
  split
  · rename_i hempty
    simp at hempty
  · rename_i hbracket
    rw [ht] at hbracket
    cases hbracket
    exact absurd hstarts (by decide +kernel)
  · rename_i d ds _ hcons
    have hd : startsWord d = true := by
      rw [ht] at hcons
      cases hcons
      exact hstarts
    simp only [hd, hup, htarget, Bool.not_true, Bool.false_eq_true, if_false]
    have heither : c = '=' ∨ c = '[' := by simpa using hc
    rcases heither with rfl | rfl <;> simp

theorem toList_text_of_isContextual {d : Directive} (h : d.isContextual = true) :
    d.text.toList = (d.target.getD "").toList ++ '[' :: d.contextText := by
  obtain ⟨target, span, field, v⟩ := d
  cases span <;> cases field
  case none.none => cases h
  all_goals simp [text, selection, contextText]

theorem contextText_eq_append_name (d : Directive) : ∃ before, d.contextText = before ++ d.level.name.toList := by
  rw [contextText]
  exact ⟨_, (List.append_assoc _ [']', '='] _).symm⟩

/-- A directive is read from its text. -/
theorem ofChars?_text {d : Directive} (h : d.Readable) : ofChars? d.text.toList = some d := by
  cases hd : d.isContextual with
  | true =>
    rw [toList_text_of_isContextual hd]
    obtain ⟨before, hbefore⟩ := d.contextText_eq_append_name
    cases htarget : d.target with
    | none =>
      have hshape : (Text.trim (String.ofList ('[' :: d.contextText))).toList = '[' :: d.contextText := by
        rw [hbefore, ← List.cons_append, trim_of_level _ (by rintro c ⟨⟩; decide), String.toList_ofList]
      have hnamed : ({ level := .full } : Directive) = { target := d.target, level := .full } := by rw [htarget]
      rw [Option.getD_none, String.toList_empty, List.nil_append, ofChars?]
      simp only [hshape]
      exact @spanPart?_contextText d _ h hd hnamed ['['] 1 rfl
    | some t =>
      obtain ⟨hfirst, hother⟩ := h.target t htarget
      have hnamed : ({ target := some t, level := .full } : Directive) = { target := d.target, level := .full } := by
        rw [htarget]
      have hlevel : ∃ before, '[' :: d.contextText = before ++ d.level.name.toList :=
        ⟨'[' :: before, congrArg ('[' :: ·) hbefore⟩
      rw [Option.getD_some, ofChars?_target hfirst hother (by decide) hlevel, if_neg (by decide)]
      have hbracket : t.toList ++ '[' :: d.contextText = (t.toList ++ ['[']) ++ d.contextText := by simp
      rw [hbracket]
      exact spanPart?_contextText h hd hnamed (by simp)
  | false =>
    obtain ⟨target, span, field, v⟩ := d
    have hplain : span = none ∧ field = none := by simpa [isContextual] using hd
    obtain ⟨rfl, rfl⟩ := hplain
    cases target with
    | none =>
      have htext : text { level := v } = v.name := by simp [text]
      rw [htext, ofChars?_level]
    | some t =>
      obtain ⟨hfirst, hother⟩ := h.target t rfl
      have htext : (text { target := some t, level := v }).toList = t.toList ++ '=' :: v.name.toList := by
        simp [text, selection]
      have hequals : t.toList ++ '=' :: v.name.toList = (t.toList ++ ['=']) ++ v.name.toList := by simp
      have hlevel : ∃ before, '=' :: v.name.toList = before ++ v.name.toList := ⟨['='], rfl⟩
      rw [htext, ofChars?_target hfirst hother (by decide) hlevel, if_pos rfl, hequals, levelPart?_name (by simp)]

end Directive

end Reconciliation
