import TimeSeries.Formula.Transform

set_option autoImplicit false

/-!
# The built-in functions

The functions that every interpreter has unless it is built without them, and their legacy
spellings.
-/
namespace TimeSeries

def yearOverYear (table : Table) : Except FormulaError Value :=
  yearlyChanges table fun lag => changes lag percentChange table

def changeFunctions : List Function :=
  [⟨"DIFF", "First difference", .series fun table _ => changes 1 difference table⟩,
   ⟨"DIFA", "Annualized first difference", .series fun table _ =>
      yearlyChanges table fun periods => changes 1
        (fun current previous => some ((current - previous) * Float.ofNat periods)) table⟩,
   ⟨"DIFY", "Year-over-year difference", .series fun table _ =>
      yearlyChanges table fun lag => changes lag difference table⟩,
   ⟨"PCTCH", "Percent change from the previous period (%CH)", .series fun table _ =>
      changes 1 percentChange table⟩,
   ⟨"PCTCHA", "Annualized percent change (%CHA)", .series fun table _ =>
      yearlyChanges table fun periods => changes 1 (compoundChange periods) table⟩,
   ⟨"YRYR", "Year-over-year percent change", .series fun table _ => yearOverYear table⟩,
   ⟨"PCTCHY", "Year-over-year percent change (%CHY)", .series fun table _ => yearOverYear table⟩]

def shiftFunctions : List Function :=
  [⟨"LAG", "Shift values forward by n periods (default 1)",
      .seriesWithPeriods fun table periods _ => .ok (.series (lagSeries table periods))⟩,
   ⟨"LEAD", "Shift values backward by n periods (default 1)",
      .seriesWithPeriods fun table periods _ => .ok (.series (leadSeries table periods))⟩]

def aggregateFunctions : List Function :=
  [⟨"SUM", "Row-wise sum", .seriesList (aggregateRows "SUM" total)⟩,
   ⟨"AVG", "Row-wise mean", .seriesList (aggregateRows "AVG" mean)⟩,
   ⟨"MIN", "Row-wise minimum", .seriesList (aggregateRows "MIN" minimum)⟩,
   ⟨"MAX", "Row-wise maximum", .seriesList (aggregateRows "MAX" maximum)⟩,
   ⟨"MERGE", "Outer join into one multi-column table", .seriesList fun tables _ =>
      (liftTable (joinTables tables)).map .series⟩]

/-- A function of every number of a series. -/
def elementwise (f : Float → Cell) : Transformation :=
  .series fun table _ => .ok (.series (table.mapValues f))

def numberFunctions : List Function :=
  [⟨"LOG", "Natural logarithm", elementwise logarithm⟩,
   ⟨"EXP", "Exponential", elementwise exponential⟩,
   ⟨"ABS", "Absolute value", elementwise absolute⟩,
   ⟨"SQRT", "Square root", elementwise squareRoot⟩]

/-- Spellings whose percent sign leads to no function. -/
def legacyFunctions : List Function :=
  [⟨"YRYR%", "Legacy spelling of YRYR", .series fun table _ => yearOverYear table⟩,
   ⟨"DIFF%", "Legacy spelling of %CH", .series fun table _ => changes 1 percentChange table⟩]

def byName (functions : List Function) : NameMap Function :=
  .ofList (functions.map fun function => (function.name, function))

def FunctionRegistry.standard : FunctionRegistry :=
  ⟨byName (changeFunctions ++ shiftFunctions ++ aggregateFunctions ++ numberFunctions),
    byName legacyFunctions⟩

end TimeSeries
