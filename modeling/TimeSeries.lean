import TimeSeries.Main
import TimeSeries.Proofs.Agreement
import TimeSeries.Proofs.Calendar.Period
import TimeSeries.Proofs.Calendar.PeriodLength
import TimeSeries.Proofs.Calendar.PeriodOrder
import TimeSeries.Proofs.Calendar.SamePeriod
import TimeSeries.Proofs.Csv.RoundTrip
import TimeSeries.Proofs.Csv.RowOrder
import TimeSeries.Proofs.Decimal.Doubles
import TimeSeries.Proofs.Formula.Addressing
import TimeSeries.Proofs.Formula.Aggregating
import TimeSeries.Proofs.Formula.Balance
import TimeSeries.Proofs.Formula.Bounds
import TimeSeries.Proofs.Formula.Broadcasting
import TimeSeries.Proofs.Formula.BuiltIn
import TimeSeries.Proofs.Formula.Conformed
import TimeSeries.Proofs.Formula.Conforming
import TimeSeries.Proofs.Formula.Dealing
import TimeSeries.Proofs.Formula.ExponentSigns
import TimeSeries.Proofs.Formula.Extension
import TimeSeries.Proofs.Formula.Filling
import TimeSeries.Proofs.Formula.Grouping
import TimeSeries.Proofs.Formula.Invocation
import TimeSeries.Proofs.Formula.Lagging
import TimeSeries.Proofs.Formula.LookAhead
import TimeSeries.Proofs.Formula.Memory
import TimeSeries.Proofs.Formula.Moving
import TimeSeries.Proofs.Formula.OptionOrder
import TimeSeries.Proofs.Formula.Overlay
import TimeSeries.Proofs.Formula.Parentheses
import TimeSeries.Proofs.Formula.Plain
import TimeSeries.Proofs.Formula.Positions
import TimeSeries.Proofs.Formula.Reading
import TimeSeries.Proofs.Formula.References
import TimeSeries.Proofs.Formula.Registry
import TimeSeries.Proofs.Formula.Rescanning
import TimeSeries.Proofs.Formula.Rowwise
import TimeSeries.Proofs.Formula.Safe
import TimeSeries.Proofs.Formula.SettingTexts
import TimeSeries.Proofs.Formula.Simulation
import TimeSeries.Proofs.Formula.StringLiterals
import TimeSeries.Proofs.Formula.Supply
import TimeSeries.Proofs.Formula.TableErrors
import TimeSeries.Proofs.Formula.Tracing
import TimeSeries.Proofs.Formula.Valid
import TimeSeries.Proofs.Formula.Visits
import TimeSeries.Proofs.Formula.YearOverYear
import TimeSeries.Proofs.Store.Containment
import TimeSeries.Proofs.Store.Listing
import TimeSeries.Proofs.Table.Grid
import TimeSeries.Proofs.Table.Join
import TimeSeries.Proofs.Table.Moving
import TimeSeries.Proofs.Table.Names
import TimeSeries.Proofs.Table.Operations
import TimeSeries.Proofs.Table.OuterJoin
import TimeSeries.Proofs.Table.Regrouping
import TimeSeries.Proofs.Table.Rejoining
import TimeSeries.Proofs.Table.Rowwise
import TimeSeries.Proofs.Table.Runs
import TimeSeries.Proofs.Table.Selecting
import TimeSeries.Proofs.Table.Shaped
import TimeSeries.Proofs.Text.Case
