import Telemetry.Agent.Directive

/-!
Which lines of a log are shown.

A filter is a list of directives with commas between them. A line is judged by the most specific
directive that is about it, and without one it is not shown. A directive with a longer target is
more specific, and of equal targets the one that asks for a field; of two directives that say the
same about lines, the later one counts. Every line has one field, its message. The values of
fields are not looked at, and no line is written inside a span.
-/
namespace Telemetry

/-- A filter: its directives in the order in which they were written. -/
structure LogFilter where
  directives : List Directive
  deriving DecidableEq, Repr

namespace Directive

/-- The field that every line has. -/
def messageField : List Char := "message".toList

/-- Whether the directive is about lines of a target. -/
def concerns (target : List Char) (d : Directive) : Bool :=
  d.span.isNone && d.target.all (·.isPrefixOf target) &&
    d.field.all fun field => field.name = messageField && !field.asksValue

/-- How specific a directive is by its target: one without a target is the least so. -/
def targetWeight (d : Directive) : Nat :=
  match d.target with
  | none => 0
  | some target => target.length + 1

/-- Whether the directive judges a line that both are about, if the other one came before it. -/
def outweighs (d other : Directive) : Bool :=
  decide (other.targetWeight < d.targetWeight) ||
    (other.targetWeight == d.targetWeight && (d.field.isSome || other.field.isNone))

end Directive

namespace LogFilter

/-- Reads a filter; empty directives are passed over. -/
def parse? (text : List Char) : Option LogFilter :=
  (((text.splitOn ',').filter (· ≠ [])).mapM Directive.parse?).map LogFilter.mk

def judge? (f : LogFilter) (target : List Char) : Option Directive :=
  (f.directives.filter (·.concerns target)).foldl
    (fun judge d =>
      match judge with
      | none => some d
      | some other => if d.outweighs other then some d else some other)
    none

def shows (f : LogFilter) (target : String) (level : Level) : Bool :=
  match f.judge? target.toList with
  | some d => decide (level.rank ≤ d.rank)
  | none => false

end LogFilter

end Telemetry
