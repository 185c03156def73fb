import Mathlib.Data.List.TakeWhile
import Reconciliation.Proofs.Text.Digits
import Reconciliation.Proofs.Time.Calendar
import Reconciliation.Proofs.Time.Instant
import Reconciliation.Time.Rfc3339
/-!
# Reading back written times

A written time is read as the time that it was written for, but for the places that were not written
(`ofRfc3339?_toRfc3339`). Each field is read on its own: it leaves what was written after it, and what is
written after it does not begin with a digit wherever more digits could be read.

A second that is counted on before the end of its minute is written as the next one and read as that
(`ofRfc3339?_shortest`), and no text is read as such a time (`overruns_of_ofRfc3339?`).
-/

namespace Reconciliation

namespace Instant

open Text

/-! ### Numbers -/

theorem isDigit_of_mem_padded {width n : Nat} {c : Char} (h : c ∈ padded width n) : c.isDigit = true := by
  rcases List.mem_append.1 h with hzero | hdigit
  · rw [List.eq_of_mem_replicate hzero]
    rfl
  · exact Nat.isDigit_of_mem_toDigits (by decide) (by decide) hdigit

theorem padded_ne_nil (width n : Nat) : padded width n ≠ [] :=
  List.append_ne_nil_of_right_ne_nil _ Nat.toDigits_ne_nil

theorem decimalValue_padded (width n : Nat) : decimalValue (padded width n) = n := by
  rw [padded, decimalValue_zeros_append, decimalValue_toDigits]

theorem length_padded {width n : Nat} (hwidth : 0 < width) (hn : n < 10 ^ width) :
    (padded width n).length = width := by
  have hlength : (Nat.toDigits 10 n).length ≤ width := (Nat.length_toDigits_le_iff (by decide) hwidth).2 hn
  rw [padded, List.length_append, List.length_replicate]
  omega

/-- A text that does not go on with a digit. -/
def Stops (rest : List Char) : Prop :=
  ∀ c ∈ rest.head?, c.isDigit = false

theorem takeWhile_isDigit_of_stops {rest : List Char} (h : Stops rest) (n : Nat) :
    (rest.take n).takeWhile Char.isDigit = [] := by
  cases rest with
  | nil => simp
  | cons c rest =>
    cases n with
    | zero => simp
    | succ n => simp [h c rfl]

/-- Digits are read up to their end, be it for what follows or because no more are taken. -/
theorem number?_append {ds rest : List Char} {most : Nat} (hds : ∀ c ∈ ds, c.isDigit = true) (hne : ds ≠ [])
    (hmost : ds.length ≤ most) (hend : ds.length = most ∨ Stops rest) :
    number? most (ds ++ rest) = some (decimalValue ds, rest) := by
  have htail : (rest.take (most - ds.length)).takeWhile Char.isDigit = [] := by
    rcases hend with hfull | hstops
    · rw [hfull, Nat.sub_self, List.take_zero, List.takeWhile_nil]
    · exact takeWhile_isDigit_of_stops hstops _
  have htaken : ((ds ++ rest).take most).takeWhile Char.isDigit = ds := by
    rw [List.take_append, List.take_of_length_le hmost, List.takeWhile_append_of_pos hds, htail,
      List.append_nil]
  unfold number?
  rw [htaken, if_neg (by simpa using hne), List.drop_left]

theorem number?_padded {width n most : Nat} {rest : List Char} (hmost : (padded width n).length ≤ most)
    (hend : (padded width n).length = most ∨ Stops rest) :
    number? most (padded width n ++ rest) = some (n, rest) := by
  rw [number?_append (fun c hc => isDigit_of_mem_padded hc) (padded_ne_nil width n) hmost hend,
    decimalValue_padded]

theorem dropBlanks_digits {ds : List Char} (hds : ∀ c ∈ ds, c.isDigit = true) (hne : ds ≠ [])
    (rest : List Char) : dropBlanks (ds ++ rest) = ds ++ rest := by
  cases ds with
  | nil => exact absurd rfl hne
  | cons c ds => exact dropBlanks_cons (isBlank_of_isDigit (hds c List.mem_cons_self)) _

/-! ### Fields -/

theorem field?_padded {n : Nat} (hn : n < 100) (rest : List Char) :
    field? (padded 2 n ++ rest) = some (n, rest) := by
  have hlength : (padded 2 n).length = 2 := length_padded (by decide) hn
  rw [field?, dropBlanks_digits (fun c hc => isDigit_of_mem_padded hc) (padded_ne_nil 2 n),
    number?_padded (le_of_eq hlength) (.inl hlength)]

theorem mark?_cons {c : Char} (h : isBlank c = false) (rest : List Char) :
    mark? c (c :: rest) = some rest := by
  rw [mark?, dropBlanks_cons h]
  simp

theorem year?_yearText (year : Int) {rest : List Char} (hrest : Stops rest) :
    year? (yearText year ++ rest) = some (year, rest) := by
  unfold yearText
  by_cases hshort : 0 ≤ year ∧ year ≤ 9999
  · have hlength : (padded 4 year.toNat).length = 4 := length_padded (by decide) (by omega)
    have hread : number? 4 (padded 4 year.toNat ++ rest) = some (year.toNat, rest) :=
      number?_padded (le_of_eq hlength) (.inl hlength)
    have hvalue : ((year.toNat : Nat) : Int) = year := Int.toNat_of_nonneg hshort.1
    obtain ⟨c, ds, hds⟩ := List.exists_cons_of_ne_nil (padded_ne_nil 4 year.toNat)
    have hc : c.isDigit = true := isDigit_of_mem_padded (hds ▸ List.mem_cons_self)
    rw [if_pos hshort]
    rw [hds, List.cons_append] at hread ⊢
    unfold year?
    rw [dropBlanks_cons (isBlank_of_isDigit hc)]
    split
    · cases ‹_ :: _ = _›
      cases hc
    · cases ‹_ :: _ = _›
      cases hc
    · rw [hread, Option.map_some, hvalue]
  · have hread : number? (padded 4 year.natAbs ++ rest).length (padded 4 year.natAbs ++ rest) =
        some (year.natAbs, rest) := by
      refine number?_padded ?_ (.inr hrest)
      rw [List.length_append]
      omega
    rw [if_neg hshort, List.cons_append]
    by_cases hneg : year < 0
    · have hvalue : -((year.natAbs : Nat) : Int) = year := by omega
      rw [if_pos hneg, year?, dropBlanks_cons (by decide)]
      simp only [hread, Option.map_some, hvalue]
    · have hvalue : ((year.natAbs : Nat) : Int) = year := by omega
      rw [if_neg hneg, year?, dropBlanks_cons (by decide)]
      simp only [hread, Option.map_some, hvalue]

/-- The nanoseconds that are written. -/
def Precision.kept (p : Precision) (nanos : Nat) : Nat :=
  match p with
  | .seconds => 0
  | .micros => nanos / 1000 * 1000
  | .shortest => nanos

theorem fraction?_padded {width n : Nat} (hwidth : 0 < width) (hmost : width ≤ 9) (hn : n < 10 ^ width)
    {rest : List Char} (hrest : Stops rest) :
    fraction? ('.' :: (padded width n ++ rest)) = some (n * 10 ^ (9 - width), rest) := by
  have hlength := length_padded hwidth hn
  have hread : number? 9 (padded width n ++ rest) = some (n, rest) :=
    number?_padded (hlength.le.trans hmost) (.inr hrest)
  have hwritten : (padded width n ++ rest).length - rest.length = width := by
    rw [List.length_append, Nat.add_sub_cancel, hlength]
  have hleft : rest.dropWhile Char.isDigit = rest := by
    cases rest with
    | nil => rfl
    | cons c rest => rw [List.dropWhile_cons_of_neg (by simp [hrest c rfl])]
  unfold fraction?
  simp only [hread]
  show some (n * Nat.pow 10 (9 - ((padded width n ++ rest).length - rest.length)), rest.dropWhile Char.isDigit) = _
  rw [hwritten, hleft]
  rfl

theorem fraction?_none {rest : List Char} (h : ∀ after, rest ≠ '.' :: after) : fraction? rest = some (0, rest) := by
  unfold fraction?
  split
  · exact absurd rfl (h _)
  · rfl

theorem fraction?_fractionText (p : Precision) {nanos : Nat} (hnanos : nanos < nanosPerSecond)
    {rest : List Char} (hrest : Stops rest) (hpoint : ∀ after, rest ≠ '.' :: after) :
    fraction? (fractionText p nanos ++ rest) = some (p.kept nanos, rest) := by
  rw [nanosPerSecond] at hnanos
  cases p with
  | seconds => exact fraction?_none hpoint
  | micros => exact fraction?_padded (by decide) (by decide) (by omega) hrest
  | shortest =>
    simp only [fractionText, Precision.kept]
    split_ifs with hzero hmillis hmicros
    · rw [List.nil_append, fraction?_none hpoint, hzero]
    · rw [List.cons_append, fraction?_padded (by decide) (by decide) (by omega) hrest]
      congr 2
      omega
    · rw [List.cons_append, fraction?_padded (by decide) (by decide) (by omega) hrest]
      congr 2
      omega
    · rw [List.cons_append, fraction?_padded (by decide) (by decide) (by omega) hrest]
      simp

/-! ### Whole times -/

/-- The second of the minute that is written: the one after a second that is counted on. -/
def writtenSecond (t : Instant) : Nat :=
  t.secondOfDay.toNat % 60 + if t.isLeap then 1 else 0

theorem writtenSecond_of_isLeap {t : Instant} (h : t.isLeap = true) :
    t.writtenSecond = t.secondOfDay.toNat % 60 + 1 := by
  rw [writtenSecond, if_pos h]

theorem writtenSecond_of_not_isLeap {t : Instant} (h : t.isLeap = false) :
    t.writtenSecond = t.secondOfDay.toNat % 60 := by
  rw [writtenSecond, if_neg (Bool.eq_false_iff.1 h), Nat.add_zero]

theorem writtenSecond_lt (t : Instant) : t.writtenSecond < 100 := by
  rw [writtenSecond]
  split_ifs <;> omega

theorem secondOfDay_mod_sixty (t : Instant) : (t.secondOfDay.toNat % 60 : Int) = t.seconds % 60 := by
  rw [secondOfDay, secondsPerDay]
  omega

/-- Before the end of its minute, the second after one that is counted on is on the same day. -/
theorem day_settled {t : Instant} (h : t.overruns = true) :
    t.settled.day = t.day ∧ t.settled.secondOfDay.toNat = t.secondOfDay.toNat + 1 := by
  obtain ⟨hseconds, -⟩ := settled_of_overruns h
  have hminute := (overruns_iff.1 h).2
  rw [day, day, secondOfDay, secondOfDay, hseconds, secondsPerDay]
  omega

/-- An instant is written as the one that its reading settles on. -/
theorem toRfc3339_settled (p : Precision) (t : Instant) : t.settled.toRfc3339 p = t.toRfc3339 p := by
  cases h : t.overruns with
  | false => rw [settled_of_not_overruns h]
  | true =>
    obtain ⟨hlong, hminute⟩ := overruns_iff.1 h
    obtain ⟨hday, hsecond⟩ := day_settled h
    have hmod := t.secondOfDay_mod_sixty
    have hleap : t.isLeap = true := isLeap_iff.2 hlong
    have hnanos : t.settled.nanos % nanosPerSecond = t.nanos % nanosPerSecond := by
      have hlt := t.nanos_lt
      rw [(settled_of_overruns h).2, nanosPerSecond] at *
      omega
    have hhour : (t.secondOfDay.toNat + 1) / 3600 = t.secondOfDay.toNat / 3600 := by omega
    have hmin : (t.secondOfDay.toNat + 1) / 60 = t.secondOfDay.toNat / 60 := by omega
    have hrest : (t.secondOfDay.toNat + 1) % 60 = t.secondOfDay.toNat % 60 + 1 := by omega
    simp only [toRfc3339, rfc3339Chars, hday, hsecond, hhour, hmin, hrest, hnanos, hleap, isLeap_settled h,
      if_true, Bool.false_eq_true, if_false, Nat.add_zero]

theorem secondOfDay_lt (t : Instant) : t.secondOfDay.toNat < 86400 := by
  rw [secondOfDay, secondsPerDay]
  omega

theorem seconds_eq (t : Instant) : t.day * secondsPerDay + t.secondOfDay.toNat = t.seconds := by
  rw [day, secondOfDay, secondsPerDay]
  omega

/-- The days of the first and of the last second are whole. -/
theorem day_bounds (t : Instant) :
    firstSecond ≤ t.day * secondsPerDay ∧ t.day * secondsPerDay ≤ lastSecond := by
  have hfirst : firstSecond = -8334601228800 := by decide
  have hlast : lastSecond = 8210266876799 := by decide
  have hlower := t.first_le
  have hupper := t.le_last
  rw [hfirst] at hlower ⊢
  rw [hlast] at hupper ⊢
  rw [day, secondsPerDay]
  omega

theorem ofFields?_eq {date : Date} {hour minute second nanos : Nat} (hdate : date.isValid = true)
    (hhour : hour ≤ 23) (hminute : minute ≤ 59) (hsecond : second ≤ 60)
    (hfirst : firstSecond ≤ date.toDays * secondsPerDay) (hlast : date.toDays * secondsPerDay ≤ lastSecond) :
    ofFields? date hour minute second nanos 0 =
      ofParts? (date.toDays * secondsPerDay + (hour * 3600 + minute * 60 + min second 59 : Nat))
        (nanos + if second = 60 then nanosPerSecond else 0) := by
  have hmin : (if second = 60 then 59 else second) = min second 59 := by
    split_ifs <;> omega
  unfold ofFields?
  simp only [hmin]
  rw [if_pos, sub_zero]
  simp [hdate, hhour, hminute, hfirst, hlast]

theorem ofFields?_parts {t : Instant} (ht : t.overruns = false) (nanos : Nat) :
    ofFields? (Date.ofDays t.day) (t.secondOfDay.toNat / 3600) (t.secondOfDay.toNat / 60 % 60)
        t.writtenSecond nanos 0 =
      ofParts? t.seconds (nanos + if t.isLeap then nanosPerSecond else 0) := by
  have hbound := t.secondOfDay_lt
  obtain ⟨hfirst, hlast⟩ := t.day_bounds
  have hwritten : t.writtenSecond ≤ 60 ∧ min t.writtenSecond 59 = t.secondOfDay.toNat % 60 ∧
      (t.writtenSecond = 60 ↔ t.isLeap = true) := by
    cases h : t.isLeap with
    | true =>
      have hmod := t.secondOfDay_mod_sixty
      have hend : t.seconds % 60 = 59 := overruns_eq_false_iff.1 ht h
      have hminute : t.secondOfDay.toNat % 60 = 59 := by omega
      rw [writtenSecond_of_isLeap h, hminute]
      simp
    | false =>
      rw [writtenSecond_of_not_isLeap h]
      exact ⟨by omega, by omega, iff_of_false (by omega) Bool.false_ne_true⟩
  obtain ⟨hsixty, hmin, hleap⟩ := hwritten
  have htime : t.secondOfDay.toNat / 3600 * 3600 + t.secondOfDay.toNat / 60 % 60 * 60 +
      t.secondOfDay.toNat % 60 = t.secondOfDay.toNat := by
    omega
  rw [ofFields?_eq (Date.isValid_ofDays _) (by omega) (by omega) hsixty]
  · rw [Date.toDays_ofDays, hmin, htime, seconds_eq]
    simp only [hleap]
  · rwa [Date.toDays_ofDays]
  · rwa [Date.toDays_ofDays]

theorem stops_of_not_isDigit {c : Char} (h : c.isDigit = false) (rest : List Char) : Stops (c :: rest) := by
  intro d hd
  cases hd
  exact h

theorem fields_lt {d : Date} (h : d.isValid = true) : d.month < 100 ∧ d.day < 100 := by
  have hmost : Date.daysInMonth d.year d.month < 100 := by
    unfold Date.daysInMonth
    split_ifs <;> decide
  simp only [Date.isValid, Bool.and_eq_true, decide_eq_true_eq] at h
  omega

theorem separator?_cons (rest : List Char) : separator? ('T' :: rest) = some rest := rfl

theorem offset?_universal : offset? ['Z'] = some (0, []) := rfl

/-- A written time is read as that time, less the places of its fraction that were not written. -/
theorem ofRfc3339?_toRfc3339 (p : Precision) {t : Instant} (ht : t.overruns = false) :
    ofRfc3339? (t.toRfc3339 p) =
      ofParts? t.seconds (p.kept (t.nanos % nanosPerSecond) + if t.isLeap then nanosPerSecond else 0) := by
  obtain ⟨hmonth, hday⟩ := fields_lt (Date.isValid_ofDays t.day)
  have hbound := t.secondOfDay_lt
  have hhour : t.secondOfDay.toNat / 3600 < 100 := by omega
  have hminute : t.secondOfDay.toNat / 60 % 60 < 100 := by omega
  have hsecond := t.writtenSecond_lt
  have hnanos : t.nanos % nanosPerSecond < nanosPerSecond := Nat.mod_lt _ (by decide)
  have hfraction := fraction?_fractionText p hnanos (stops_of_not_isDigit (c := 'Z') (by decide) [])
    fun after h => nomatch h
  rw [← ofFields?_parts ht, ofRfc3339?, toRfc3339, String.toList_ofList, rfc3339Chars, ← writtenSecond]
  simp only [List.append_assoc, List.cons_append]
  unfold ofRfc3339Chars?
  dsimp only [Option.bind_eq_bind]
  rw [year?_yearText _ (stops_of_not_isDigit (by decide) _), Option.bind_some,
    mark?_cons (by decide), Option.bind_some, field?_padded hmonth, Option.bind_some,
    mark?_cons (by decide), Option.bind_some, field?_padded hday, Option.bind_some,
    separator?_cons, Option.bind_some, field?_padded hhour, Option.bind_some,
    mark?_cons (by decide), Option.bind_some, field?_padded hminute, Option.bind_some,
    mark?_cons (by decide), Option.bind_some, field?_padded hsecond, Option.bind_some,
    hfraction, Option.bind_some, offset?_universal]
  rfl

theorem ofRfc3339?_of_not_overruns {t : Instant} (ht : t.overruns = false) :
    ofRfc3339? (t.toRfc3339 .shortest) = some t := by
  have hnanos : t.nanos % nanosPerSecond + (if t.isLeap then nanosPerSecond else 0) = t.nanos := by
    have hlt := t.nanos_lt
    simp only [isLeap_iff]
    split_ifs with h <;> rw [nanosPerSecond] at * <;> omega
  rw [ofRfc3339?_toRfc3339 .shortest ht, Precision.kept, hnanos, ofParts?,
    dif_pos ⟨t.first_le, t.le_last, t.nanos_lt⟩]

/-- A time that is written with as many places as it needs is read as the time that its reading settles on. -/
theorem ofRfc3339?_shortest (t : Instant) : ofRfc3339? (t.toRfc3339 .shortest) = some t.settled := by
  rw [← toRfc3339_settled, ofRfc3339?_of_not_overruns t.overruns_settled]

/-- A time that was written can be read, with whatever places. -/
theorem exists_ofRfc3339? (p : Precision) (t : Instant) : ∃ u, ofRfc3339? (t.toRfc3339 p) = some u := by
  have hkept : p.kept (t.settled.nanos % nanosPerSecond) < nanosPerSecond := by
    have hnanos : t.settled.nanos % nanosPerSecond < nanosPerSecond := Nat.mod_lt _ (by decide)
    cases p with
    | seconds => exact Nat.zero_lt_succ 999999999
    | micros => exact lt_of_le_of_lt (Nat.div_mul_le_self _ _) hnanos
    | shortest => exact hnanos
  rw [← toRfc3339_settled, ofRfc3339?_toRfc3339 p t.overruns_settled, ofParts?]
  refine ⟨_, dif_pos ⟨t.settled.first_le, t.settled.le_last, ?_⟩⟩
  split_ifs <;> omega

/-! ### Times that are read -/

/-- Offsets are whole minutes. -/
theorem offset?_mod_sixty {s rest : List Char} {offset : Int} (h : offset? s = some (offset, rest)) :
    offset % 60 = 0 := by
  have hdigits : ∀ {s : List Char} {r : Int × List Char}, offsetDigits? s = some r → r.1 % 60 = 0 := by
    intro s r hr
    unfold offsetDigits? at hr
    split at hr
    · split at hr
      · split at hr
        · cases hr
          dsimp only
          omega
        · cases hr
      · cases hr
    · cases hr
  unfold offset? at h
  split at h
  · cases h
    rfl
  · cases h
    rfl
  · exact hdigits h
  · obtain ⟨r, hr, heq⟩ := Option.map_eq_some_iff.1 h
    cases heq
    have hwhole := hdigits hr
    omega
  · obtain ⟨r, hr, heq⟩ := Option.map_eq_some_iff.1 h
    cases heq
    have hwhole := hdigits hr
    omega
  · split at h
    · cases h
      rfl
    · cases h
  · cases h

/-- With an offset of whole minutes, only the second 60 is read as one that is counted on. -/
theorem overruns_of_ofFields? {date : Date} {hour minute second nanos : Nat} {offset : Int} {t : Instant}
    (hnanos : nanos < nanosPerSecond) (hoffset : offset % 60 = 0)
    (h : ofFields? date hour minute second nanos offset = some t) : t.overruns = false := by
  dsimp only [ofFields?] at h
  split at h
  · split at h
    · obtain ⟨hseconds, -⟩ := ofParts?_eq_some h
      rw [overruns_eq_false_iff, hseconds, secondsPerDay]
      omega
    · cases h
  · split at h
    · obtain ⟨-, hfraction⟩ := ofParts?_eq_some h
      refine overruns_of_not_isLeap (isLeap_eq_false_iff.2 ?_)
      rwa [hfraction]
    · cases h

theorem number?_eq_some {most n : Nat} {s rest : List Char} (h : number? most s = some (n, rest)) :
    ∃ ds, ds.length ≤ most ∧ s = ds ++ rest ∧ n < 10 ^ ds.length := by
  dsimp only [number?] at h
  split at h
  · cases h
  · cases h
    refine ⟨(s.take most).takeWhile Char.isDigit, ?_, ?_, ?_⟩
    · exact ((List.takeWhile_prefix _).length_le).trans (List.length_take_le most s)
    · have hprefix : (s.take most).takeWhile Char.isDigit <+: s :=
        (List.takeWhile_prefix _).trans (List.take_prefix most s)
      exact (List.prefix_iff_eq_append.1 hprefix).symm
    · exact decimalValue_lt fun c hc => List.mem_takeWhile_imp hc

theorem fraction?_lt {s rest : List Char} {nanos : Nat} (h : fraction? s = some (nanos, rest)) :
    nanos < nanosPerSecond := by
  unfold fraction? at h
  split at h
  · obtain ⟨⟨n, after⟩, hread, h⟩ := Option.bind_eq_some_iff.1 h
    obtain ⟨ds, hmost, rfl, hn⟩ := number?_eq_some hread
    cases h
    have hlength : (ds ++ after).length - after.length = ds.length := by
      rw [List.length_append, Nat.add_sub_cancel]
    calc n * Nat.pow 10 (9 - ((ds ++ after).length - after.length))
        = n * 10 ^ (9 - ds.length) := by rw [hlength]; rfl
      _ < 10 ^ ds.length * 10 ^ (9 - ds.length) := Nat.mul_lt_mul_of_pos_right hn (Nat.pow_pos (by decide))
      _ = 10 ^ 9 := by rw [← Nat.pow_add, Nat.add_sub_cancel' hmost]
      _ = nanosPerSecond := rfl
  · cases h
    decide

/-- No text is read as a second that is counted on before the end of its minute. -/
theorem overruns_of_ofRfc3339? {s : String} {t : Instant} (h : ofRfc3339? s = some t) : t.overruns = false := by
  dsimp only [ofRfc3339?, ofRfc3339Chars?, Option.bind_eq_bind] at h
  simp only [Option.bind_eq_some_iff] at h
  obtain ⟨_, -, _, -, _, -, _, -, _, -, _, -, _, -, _, -, _, -, _, -, _, -, ⟨nanos, s⟩, hfraction, ⟨offset, rest⟩,
    hoffset, h⟩ := h
  split at h
  · exact overruns_of_ofFields? (fraction?_lt hfraction) (offset?_mod_sixty hoffset) h
  · cases h

end Instant

end Reconciliation
