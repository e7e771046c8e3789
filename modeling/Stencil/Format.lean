import Stencil.Calendar.Reading
import Stencil.Decimal.Reading
import Stencil.Money
import Stencil.Options
import Stencil.Text.Blank
import Stencil.Value

/-! # The text of a value

A value is turned into text under a hint. A date always has the chosen format; whatever does not fit
its hint is written plainly.
-/

namespace Stencil

namespace Value

/-- A value as an amount in cents: integers exactly, doubles rounded, and strings that hold a
number. -/
def cents? : Value → Option Int
  | integer n => some (n.toInt * 100)
  | float x => Money.cents? x
  | string s => (Decimal.float? (String.ofList (Text.trim s.toList))).bind Money.cents?
  | _ => none

/-- The text of a value that is not a date, under a hint. -/
def formatUndated (options : Options) : Hint → Value → String
  | .currency, value =>
    match value.cents? with
    | some cents => Money.text options.currencySymbol cents
    | none => value.plain
  | .date, value =>
    match value.text?.bind Date.ofText? with
    | some day => day.format options.dateFormat
    | none => value.plain
  | .plain, value => value.plain

/-- The text of a value under a hint. -/
def format (options : Options) (hint : Hint) : Value → String
  | date day => day.format options.dateFormat
  | value => value.formatUndated options hint

end Value

end Stencil
