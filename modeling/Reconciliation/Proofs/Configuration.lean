import Reconciliation.Configuration
import Reconciliation.Proofs.Text.Numeral
/-!
# Settings of an environment

A number of seconds is the one that its variable spells, if that is positive and fits a word, and the default in every
other case: when the variable is not set, is not valid UTF-8, has any other text, or spells zero in any way
(`Decodes`). So no environment gives a backoff of zero, and each setting depends on its own variable alone
(`ofEnvironment_decodes`).
-/

namespace Reconciliation

namespace Environment

variable {env env' : Environment} {name : String}

theorem text?_eq_some_iff {s : String} : env.text? name = some s ↔ env.bytes? name = some s.toUTF8 := by
  have hread (bytes : ByteArray) : String.fromUTF8? bytes = some s ↔ bytes = s.toUTF8 := by
    rw [String.fromUTF8?, String.toUTF8_eq_toByteArray]
    split_ifs with hvalid
    · rw [Option.some.injEq]
      constructor
      · rintro rfl
        rfl
      · intro h
        apply String.toByteArray_inj.1
        exact h
    · refine iff_of_false nofun ?_
      rintro rfl
      exact hvalid s.isValidUTF8
  rw [text?, Option.bind_eq_some_iff]
  constructor
  · rintro ⟨bytes, hbytes, htext⟩
    rw [hbytes, (hread bytes).1 htext]
  · exact fun h => ⟨s.toUTF8, h, (hread _).2 rfl⟩

theorem text?_congr (h : env.bytes? name = env'.bytes? name) : env.text? name = env'.text? name := by
  rw [text?, text?, h]

/-- A variable is set, in valid UTF-8, to a text of a positive number that fits a word. -/
structure Gives (env : Environment) (name : String) (n : Nat) : Prop where
  set : ∃ s, env.bytes? name = some s.toUTF8 ∧ Text.Spells s n
  positive : 1 ≤ n
  fits : n ≤ Nat.pow 2 64 - 1

theorem word64?_eq_some_iff {n : Nat} : (env.text? name).bind Text.word64? = some n ↔
    (∃ s, env.bytes? name = some s.toUTF8 ∧ Text.Spells s n) ∧ n < Nat.pow 2 64 := by
  simp only [Option.bind_eq_some_iff, text?_eq_some_iff, Text.word64?_eq_some_iff]
  constructor
  · rintro ⟨s, hset, hspells, hlt⟩
    exact ⟨⟨s, hset, hspells⟩, hlt⟩
  · rintro ⟨⟨s, hset, hspells⟩, hlt⟩
    exact ⟨s, hset, hspells, hlt⟩

end Environment

namespace Configuration

variable {env env' : Environment} {name : String} {otherwise n : Nat}

theorem positive_of_gives (h : env.Gives name n) : positive env name otherwise = n := by
  have hlt : n < Nat.pow 2 64 := Nat.lt_of_le_sub_one (by decide) h.fits
  have hread := Environment.word64?_eq_some_iff.2 ⟨h.set, hlt⟩
  rw [positive, hread]
  cases n with
  | zero => exact absurd h.positive (by decide)
  | succ n => rfl

theorem positive_of_not_gives (h : ∀ n, ¬ env.Gives name n) : positive env name otherwise = otherwise := by
  rw [positive]
  split
  · rfl
  · rfl
  · rename_i n hne hread
    obtain ⟨hset, hlt⟩ := Environment.word64?_eq_some_iff.1 hread
    refine absurd ⟨hset, ?_, ?_⟩ (h n)
    · exact Nat.one_le_iff_ne_zero.2 hne
    · exact Nat.le_sub_one_of_lt hlt

theorem positive_congr (h : env.bytes? name = env'.bytes? name) :
    positive env name otherwise = positive env' name otherwise := by
  rw [positive, positive, Environment.text?_congr h]

/-- How a number is decoded from a variable: it is the one that the variable gives or, if that gives none, another
one. In either case it is positive, and the text that is written for a number gives that number. -/
structure Decodes (env : Environment) (name : String) (otherwise n : Nat) : Prop where
  given : ∀ m, env.Gives name m → n = m
  missing : (∀ m, ¬ env.Gives name m) → n = otherwise
  positive : 1 ≤ n
  written : ∀ m, 1 ≤ m → m ≤ Nat.pow 2 64 - 1 → env.bytes? name = some (toString m).toUTF8 → n = m

theorem decodes_positive (env : Environment) (name : String) (h : 1 ≤ otherwise) :
    Decodes env name otherwise (positive env name otherwise) where
  given m hm := positive_of_gives hm
  missing hnone := positive_of_not_gives hnone
  positive := by
    by_cases hgives : ∃ m, env.Gives name m
    · obtain ⟨m, hm⟩ := hgives
      rw [positive_of_gives hm]
      exact hm.positive
    · rw [positive_of_not_gives (not_exists.1 hgives)]
      exact h
  written m hpositive hfits hset := positive_of_gives ⟨⟨_, hset, Text.spells_toString m⟩, hpositive, hfits⟩

/-- A setting is the same in all environments that have the same value for one variable. -/
def DependsOnlyOn {α : Type} (name : String) (setting : Configuration → α) : Prop :=
  ∀ env env' : Environment, env.bytes? name = env'.bytes? name →
    setting (ofEnvironment env) = setting (ofEnvironment env')

/-- Both numbers of seconds are decoded from their variables with the default otherwise, and no setting depends on a
variable of another one. -/
theorem ofEnvironment_decodes (env : Environment) :
    Decodes env "RECONCILE_BACKOFF_BASE_SECS" default.backoffBaseSeconds (ofEnvironment env).backoffBaseSeconds ∧
    Decodes env "RECONCILE_BACKOFF_MAX_SECS" default.backoffMaxSeconds (ofEnvironment env).backoffMaxSeconds ∧
    DependsOnlyOn "RECONCILE_BACKOFF_BASE_SECS" backoffBaseSeconds ∧
    DependsOnlyOn "RECONCILE_BACKOFF_MAX_SECS" backoffMaxSeconds ∧
    DependsOnlyOn "EVENT_REPORTER" eventReporter ∧
    DependsOnlyOn "EVENT_REPORTER_INSTANCE" eventReporterInstance ∧
    DependsOnlyOn "LOG_LEVEL" logLevel ∧
    DependsOnlyOn "LOG_FORMAT" logFormat ∧
    DependsOnlyOn "ENABLE_METRICS" metricsEnabled := by
  refine ⟨decodes_positive env _ (by decide), decodes_positive env _ (by decide), fun _ _ h => positive_congr h,
    fun _ _ h => positive_congr h, ?_, ?_, ?_, ?_, ?_⟩ <;>
  · intro env env' h
    simp only [ofEnvironment, Environment.text?_congr h]

/-- An environment that spells seven with a sign and zeros for the base, and has bytes that are no text for the
ceiling. -/
def spelledEnvironment : Environment := .ofList [
  ("RECONCILE_BACKOFF_BASE_SECS", "+007".toUTF8), ("RECONCILE_BACKOFF_MAX_SECS", ⟨#[0x31, 0xff]⟩)]

theorem ofEnvironment_decodes_signed :
    (ofEnvironment spelledEnvironment).backoffBaseSeconds = 7 ∧
      (ofEnvironment spelledEnvironment).backoffMaxSeconds = 21600 := by
  obtain ⟨hbase, hmax, -⟩ := ofEnvironment_decodes spelledEnvironment
  have hseven : Text.Numeral ['0', '0', '7'] 7 :=
    .next (.next (.digit (by decide : 0 < 10)) (by decide : 0 < 10)) (by decide : 7 < 10)
  refine ⟨hbase.given 7 ⟨⟨_, rfl, .signed hseven⟩, by decide, by decide⟩, hmax.missing ?_⟩
  rintro m ⟨⟨s, hset, -⟩, -, -⟩
  have hnone : spelledEnvironment.text? "RECONCILE_BACKOFF_MAX_SECS" = none := by decide +kernel
  rw [← Environment.text?_eq_some_iff, hnone] at hset
  cases hset

end Configuration

end Reconciliation
