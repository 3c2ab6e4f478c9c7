import Timetable.Filter.Comparison
import Timetable.Pattern.Stored
import Timetable.Schedule.Building
import Timetable.Schedule.Description
import Timetable.Proofs.Days
import Timetable.Proofs.Domains
import Timetable.Proofs.Jumps
import Timetable.Proofs.Scan
import Timetable.Proofs.SearchRuns
import Timetable.Proofs.WholeMinutes
import Timetable.Proofs.Ahead
import Timetable.Proofs.Emission
import Timetable.Proofs.Histories
import Timetable.Proofs.Failures
import Timetable.Proofs.Texts
import Timetable.Proofs.Grammar
import Timetable.Proofs.Canonical
import Timetable.Proofs.AnyPattern
import Timetable.Proofs.Forwards
import Timetable.Proofs.Instants
import Timetable.Proofs.Gaps
import Timetable.Proofs.WindowOrder
import Timetable.Proofs.Years
import Timetable.Proofs.Recurrence
import Timetable.Proofs.Retries
import Timetable.Proofs.Endings
import Timetable.Proofs.Agreement
import Timetable.Proofs.ZoneFaults
import Timetable.Proofs.SpelledOut
import Timetable.Proofs.Selection
import Timetable.Proofs.Words
import Timetable.Proofs.FirstDefect
import Timetable.Proofs.BetweenCalls
import Timetable.Proofs.Consultations
import Timetable.Proofs.FirstRefusal
