import Reconciliation.Logging.Directive
import Reconciliation.Configuration
import Reconciliation.Text.LowerCase
/-!
# Log filters

A filter is a list of directives with commas between them. An entry is let through by the most specific
directive that selects it. `LogFilter.ofLevel` ignores directives that cannot be read, and without any other
lets errors through; `LogFilter.ofText?` refuses them.
-/

namespace Reconciliation

structure LogFilter where
  directives : List Directive
  deriving DecidableEq, Repr

namespace LogFilter

/-- The parts of a text between commas that are not empty. -/
def parts (s : String) : List (List Char) :=
  ((s.toList.splitOn ',').filter (!·.isEmpty))

/-- The filter of some directives, or of a last resort if there are none. -/
def ofDirectives (otherwise : Verbosity) (ds : List Directive) : LogFilter :=
  ⟨if ds.isEmpty then [{ level := otherwise }] else ds⟩

def ofLevel (level : String) : LogFilter :=
  ofDirectives (.upTo .error) ((parts (Text.lowerCase level)).filterMap Directive.ofChars?)

/-- The filter that a text stands for, if all its directives can be read. -/
def ofText? (s : String) : Option LogFilter :=
  ((parts s).mapM Directive.ofChars?).map (ofDirectives .off)

def variableName : String := "RUST_LOG"

/-- The filter of an environment, or else of the configured level. -/
def ofEnvironment (env : Environment) (c : Configuration) : LogFilter :=
  ((env.text? variableName).bind ofText?).getD (ofLevel c.logLevel)

/-- The directives that apply to entries, the most specific ones first. -/
def statics (f : LogFilter) : List Directive :=
  Directive.arrange (f.directives.filter (!·.isContextual)
    ++ f.directives.filter fun d => d.isContextual && d.isStatic)

/-- The directives that apply to what is around entries, the most specific ones first. -/
def contextuals (f : LogFilter) : List Directive :=
  Directive.arrange (f.directives.filter Directive.isContextual)

def text (f : LogFilter) : String :=
  String.intercalate "," ((f.statics ++ f.contextuals).map Directive.text)

/-- The verbosity that the filter has at most. Values of fields are not known beforehand, so a directive
that asks for one counts as full. -/
def bound (f : LogFilter) : Verbosity :=
  if f.directives.any Directive.hasValue then .full
  else f.directives.foldl (fun v d => v.max d.level) .off

def entryField : String := "message"

def selects (target : String) (d : Directive) : Bool :=
  (d.target.getD "").toList.isPrefixOf target.toList
    && match d.field with
      | none => true
      | some f => f.name == entryField

def allows (f : LogFilter) (target : String) (level : LogLevel) : Bool :=
  match f.statics.find? (selects target) with
  | some d => d.level.allows level
  | none => false

end LogFilter

end Reconciliation
