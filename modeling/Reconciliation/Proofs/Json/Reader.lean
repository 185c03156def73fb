import Mathlib.Data.List.Forall2
import Mathlib.Tactic.SplitIfs
import Reconciliation.Json.Reader
/-!
# Reading back written texts

An object of texts is read as it was written, whatever characters the texts are made of
(`ofText?_ofTexts`). A character is written in one of three ways (`Escaped`), and each is read as one part of a
string that stands for the character (`Piece.StandsFor`). The parts of a whole string are put together without
pairs, because only control characters are written by their numbers.
-/

namespace Reconciliation

namespace Json

namespace Reader

/-! ### Characters -/

/-- The ways in which a character is written: behind a mark, by its number, or as it is. -/
inductive Escaped (c : Char) : List Char → Prop
  | marked (d : Char) (named : unescape? d = some c) : Escaped c ['\\', d]
  | numbered (control : c.toNat < 32) :
      Escaped c ['\\', 'u', '0', '0', hexDigit (c.toNat / 16), hexDigit c.toNat]
  | plain (printable : 32 ≤ c.toNat) (quote : c ≠ '"') (mark : c ≠ '\\') : Escaped c [c]

theorem ofNat_of_toNat {c : Char} {n : Nat} (h : c.toNat = n) : Char.ofNat n = c := by
  rw [← h, Char.ofNat_toNat]

theorem escaped (c : Char) : Escaped c (escape c) := by
  unfold escape
  split_ifs with hquote hmark hline hreturn htab hback hfeed hcontrol
  · exact .marked '"' (by rw [hquote]; rfl)
  · exact .marked '\\' (by rw [hmark]; rfl)
  · exact .marked 'n' (by rw [hline]; rfl)
  · exact .marked 'r' (by rw [hreturn]; rfl)
  · exact .marked 't' (by rw [htab]; rfl)
  · exact .marked 'b' (by rw [← ofNat_of_toNat hback]; rfl)
  · exact .marked 'f' (by rw [← ofNat_of_toNat hfeed]; rfl)
  · exact .numbered hcontrol
  · exact .plain (Nat.le_of_not_lt hcontrol) hquote hmark

/-- Whether a part of a string stands for a character: it is the character, or the number of a control
character. -/
def Piece.StandsFor (p : Piece) (c : Char) : Prop :=
  p = .char c ∨ c.toNat < 32 ∧ p = .unit c.toNat

theorem hexQuad?_control {n : Nat} (h : n < 32) :
    hexQuad? '0' '0' (hexDigit (n / 16)) (hexDigit n) = some n := by
  revert n
  decide

theorem stringTail_marked {c d : Char} (h : unescape? d = some c) (rest : List Char) :
    stringTail ('\\' :: d :: rest) = (stringTail rest).map fun r => (.char c :: r.1, r.2) := by
  have hunit : d ≠ 'u' := by
    rintro rfl
    cases h
  rw [stringTail]
  · rw [h]
    rfl
  · intro _ _ _ _ _ heq _
    exact hunit heq

theorem stringTail_numbered {n : Nat} (h : n < 32) (rest : List Char) :
    stringTail ('\\' :: 'u' :: '0' :: '0' :: hexDigit (n / 16) :: hexDigit n :: rest) =
      (stringTail rest).map fun r => (.unit n :: r.1, r.2) := by
  rw [stringTail, hexQuad?_control h]
  rfl

theorem stringTail_plain {c : Char} (hc : 32 ≤ c.toNat) (hquote : c ≠ '"') (hmark : c ≠ '\\')
    (rest : List Char) :
    stringTail (c :: rest) = (stringTail rest).map fun r => (.char c :: r.1, r.2) := by
  have hwhole : ¬ (c.toNat < 32 ∨ c = '\\') := by simp [hmark, hc]
  rw [stringTail, if_neg hwhole]
  · intro heq
    exact hquote heq
  · intro _ _ _ _ _ heq
    exact absurd heq hmark
  · intro _ _ heq
    exact absurd heq hmark

/-- A written character is read as one part that stands for it. -/
theorem stringTail_escape (c : Char) :
    ∃ p : Piece, p.StandsFor c ∧ ∀ rest,
      stringTail (escape c ++ rest) = (stringTail rest).map fun r => (p :: r.1, r.2) := by
  have h := escaped c
  generalize escape c = written at h ⊢
  cases h with
  | marked d named => exact ⟨.char c, .inl rfl, stringTail_marked named⟩
  | numbered control => exact ⟨.unit c.toNat, .inr ⟨control, rfl⟩, stringTail_numbered control⟩
  | plain printable quote mark => exact ⟨.char c, .inl rfl, stringTail_plain printable quote mark⟩

/-! ### Strings -/

theorem stringTail_flatMap_escape (cs rest : List Char) :
    ∃ ps, List.Forall₂ Piece.StandsFor ps cs ∧
      stringTail (cs.flatMap escape ++ '"' :: rest) = some (ps, rest) := by
  induction cs with
  | nil => exact ⟨[], .nil, by rw [List.flatMap_nil, List.nil_append, stringTail]⟩
  | cons c cs ih =>
    obtain ⟨p, hp, hfirst⟩ := stringTail_escape c
    obtain ⟨ps, hps, hrest⟩ := ih
    refine ⟨p :: ps, .cons hp hps, ?_⟩
    rw [List.flatMap_cons, List.append_assoc, hfirst, hrest, Option.map_some]

/-- A control character is no half of a pair, so its number stands for itself before anything. -/
theorem characters?_unit {n : Nat} (h : n < 32) (ps : List Piece) :
    characters? (.unit n :: ps) = (characters? ps).map (Char.ofNat n :: ·) := by
  have hsingle : single? n = some (Char.ofNat n) := if_pos (.inl (by omega))
  have hunpaired : characters? (.unit n :: ps) = do return (← single? n) :: (← characters? ps) := by
    cases ps with
    | nil => rfl
    | cons p ps =>
      cases p with
      | char c => rfl
      | unit m =>
        have hpair : paired? n m = none := if_neg (by omega)
        rw [characters?, hpair]
  rw [hunpaired, hsingle]
  cases characters? ps <;> rfl

theorem characters?_of_standsFor {ps : List Piece} {cs : List Char}
    (h : List.Forall₂ Piece.StandsFor ps cs) : characters? ps = some cs := by
  induction h with
  | nil => rfl
  | cons hp _ ih =>
    rcases hp with rfl | ⟨hcontrol, rfl⟩
    · rw [characters?, ih, Option.map_some]
    · rw [characters?_unit hcontrol, ih, Option.map_some, Char.ofNat_toNat]

/-- The rest of a written string, when its opening quote is gone. -/
theorem stringTail_text (s : String) (rest : List Char) :
    ∃ ps, text? ps = some s ∧ stringTail (s.toList.flatMap escape ++ '"' :: rest) = some (ps, rest) := by
  obtain ⟨ps, hps, htail⟩ := stringTail_flatMap_escape s.toList rest
  refine ⟨ps, ?_, htail⟩
  rw [text?, characters?_of_standsFor hps, Option.map_some, String.ofList_toList]

theorem quote_append (s : String) (rest : List Char) :
    (quote s).toList ++ rest = '"' :: (s.toList.flatMap escape ++ '"' :: rest) := by
  simp [quote]

theorem skipBlanks_cons {c : Char} (h : isBlank c = false) (rest : List Char) :
    skipBlanks (c :: rest) = c :: rest := by
  rw [skipBlanks, List.dropWhile_cons_of_neg (by simp [h])]

theorem skipBlanks_quote (s : String) (rest : List Char) :
    skipBlanks ((quote s).toList ++ rest) = (quote s).toList ++ rest := by
  rw [quote_append, skipBlanks_cons (by decide)]

theorem name?_quote (s : String) (rest : List Char) :
    name? ((quote s).toList ++ rest) = some (some s, rest) := by
  obtain ⟨ps, htext, htail⟩ := stringTail_text s rest
  rw [quote_append, name?, htail, Option.map_some, htext]

theorem value?_quote (fuel depth : Nat) (s : String) (rest : List Char) :
    value? (fuel + 1) depth ((quote s).toList ++ rest) = some (.value (.string s), rest) := by
  obtain ⟨ps, htext, htail⟩ := stringTail_text s rest
  rw [value?, skipBlanks_quote, quote_append]
  simp only [htail, htext, Option.map_some, orBroken, Option.getD_some]

/-! ### Objects of texts -/

/-- The fields of an object of texts. -/
def textFields (fs : Table String) : List (String × Json) :=
  fs.map fun f => (f.1, string f.2)

theorem compressFields_last (f : String × String) (rest : List Char) :
    (compressFields (textFields [f])).toList ++ rest =
      (quote f.1).toList ++ ':' :: ((quote f.2).toList ++ rest) := by
  simp [textFields, compressFields, compress]

theorem compressFields_next (f g : String × String) (fs : Table String) (rest : List Char) :
    (compressFields (textFields (f :: g :: fs))).toList ++ rest =
      (quote f.1).toList ++ ':' :: ((quote f.2).toList ++ ',' ::
        ((compressFields (textFields (g :: fs))).toList ++ rest)) := by
  simp [textFields, compressFields, compress]

theorem ofTexts_append (fs : Table String) (rest : List Char) :
    (ofTexts fs).compress.toList ++ rest =
      '\x7b' :: ((compressFields (textFields fs)).toList ++ '\x7d' :: rest) := by
  simp [ofTexts, compress, textFields]

theorem members?_last (fuel depth : Nat) (f : String × String) (rest : List Char) :
    members? (fuel + 2) depth ((quote f.1).toList ++ ':' :: ((quote f.2).toList ++ '\x7d' :: rest)) =
      some ([(some f.1, .value (.string f.2))], rest) := by
  rw [members?, skipBlanks_quote, name?_quote]
  simp only [Option.bind_eq_bind, Option.bind_some, skipBlanks_cons (c := ':') (by decide), value?_quote,
    skipBlanks_cons (c := '\x7d') (by decide)]

theorem members?_next (fuel depth : Nat) (f : String × String) (rest : List Char) :
    members? (fuel + 2) depth ((quote f.1).toList ++ ':' :: ((quote f.2).toList ++ ',' :: rest)) =
      (members? (fuel + 1) depth rest).map fun r => ((some f.1, .value (.string f.2)) :: r.1, r.2) := by
  rw [members?, skipBlanks_quote, name?_quote]
  simp only [Option.bind_eq_bind, Option.bind_some, skipBlanks_cons (c := ':') (by decide), value?_quote,
    skipBlanks_cons (c := ',') (by decide)]

/-- Each field takes a step, and the value of the last one takes one more. -/
theorem members?_compressFields {fs : Table String} (hne : fs ≠ []) {fuel : Nat} (hfuel : fs.length ≤ fuel)
    (depth : Nat) (rest : List Char) :
    members? (fuel + 1) depth ((compressFields (textFields fs)).toList ++ '\x7d' :: rest) =
      some (fs.map fun f => (some f.1, .value (.string f.2)), rest) := by
  induction fs generalizing fuel with
  | nil => exact absurd rfl hne
  | cons f fs ih =>
    obtain ⟨fuel, rfl⟩ := Nat.exists_eq_succ_of_ne_zero (Nat.ne_zero_of_lt hfuel)
    cases fs with
    | nil =>
      rw [compressFields_last, members?_last]
      rfl
    | cons g fs =>
      have hrest : (g :: fs).length ≤ fuel := Nat.le_of_succ_le_succ hfuel
      rw [compressFields_next, members?_next, ih (by simp) hrest, Option.map_some]
      rfl

theorem ofMembers_texts (fs : Table String) :
    ofMembers (fs.map fun f => (some f.1, .value (.string f.2))) =
      .object (fs.map fun f => (f.1, .value (.string f.2))) := by
  have hnames : (fs.map fun f => (some f.1, Written.value (.string f.2))).mapM
      (fun (m : Option String × Written) => m.1.map fun name => (name, m.2)) =
        some (fs.map fun f => (f.1, .value (.string f.2))) := by
    induction fs with
    | nil => rfl
    | cons f fs ih =>
      rw [List.map_cons, List.mapM_cons, ih]
      rfl
  rw [ofMembers, hnames]

/-- Fields with texts begin with the quote of the first name. -/
theorem compressFields_head {fs : Table String} (hne : fs ≠ []) (rest : List Char) :
    ∃ after, (compressFields (textFields fs)).toList ++ rest = '"' :: after := by
  obtain ⟨f, fs, rfl⟩ := List.exists_cons_of_ne_nil hne
  cases fs with
  | nil => exact ⟨_, by rw [compressFields_last, quote_append]⟩
  | cons g fs => exact ⟨_, by rw [compressFields_next, quote_append]⟩

theorem value?_ofTexts {fs : Table String} (hne : fs ≠ []) {fuel : Nat} (hfuel : fs.length ≤ fuel)
    {depth : Nat} (hdepth : depth ≠ 0) (rest : List Char) :
    value? (fuel + 2) depth ((ofTexts fs).compress.toList ++ rest) =
      some (.object (fs.map fun f => (f.1, .value (.string f.2))), rest) := by
  obtain ⟨after, hafter⟩ := compressFields_head hne ('\x7d' :: rest)
  have hopen : value? (fuel + 2) depth ('\x7b' :: '"' :: after) =
      (members? (fuel + 1) (depth - 1) ('"' :: after)).map fun r =>
        (nested depth (ofMembers r.1), r.2) := rfl
  rw [ofTexts_append, hafter, hopen, ← hafter, members?_compressFields hne hfuel, Option.map_some, nested,
    if_neg hdepth, ofMembers_texts]

/-- There is a character for each field, so a text is long enough to be read to its end. -/
theorem length_le_compressFields (fs : Table String) :
    fs.length ≤ (compressFields (textFields fs)).toList.length := by
  induction fs with
  | nil => exact Nat.zero_le _
  | cons f fs ih =>
    cases fs with
    | nil =>
      have htext := congrArg List.length (compressFields_last f [])
      simp only [List.length_append, List.length_cons, List.length_nil] at htext ⊢
      omega
    | cons g fs =>
      have htext := congrArg List.length (compressFields_next f g fs [])
      simp only [List.length_append, List.length_cons, List.length_nil] at htext ih ⊢
      omega

end Reader

/-- An object of texts is read as it was written. -/
theorem ofText?_ofTexts {fs : Table String} (hne : fs ≠ []) :
    Written.ofText? (ofTexts fs).compress =
      some (.object (fs.map fun f => (f.1, .value (.string f.2)))) := by
  have htext := Reader.ofTexts_append fs []
  have hfuel : fs.length ≤ 2 * (ofTexts fs).compress.toList.length := by
    have hfields := Reader.length_le_compressFields fs
    have hlength := congrArg List.length htext
    simp only [List.length_append, List.length_cons, List.length_nil] at hlength
    omega
  have hdepth : Reader.maxDepth ≠ 0 := by decide
  have hread := Reader.value?_ofTexts hne hfuel hdepth []
  rw [List.append_nil] at hread
  simp only [Written.ofText?, hread, Option.bind_eq_bind, Option.bind_some]
  rfl

end Json

end Reconciliation
