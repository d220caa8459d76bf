import Preflight.Report.Format
import Preflight.Report.Json
import Preflight.Report.Text
import Preflight.Terminal.Sink

/-!
Rendering a report in one of the two formats, as a text or into a sink.
-/

namespace Preflight

namespace Report

/-- The pieces in which a report is written. Only text is ever coloured. -/
def pieces (format : Format) (coloured : Bool) (report : Report) : List String :=
  match format with
  | .text => report.textPieces coloured
  | .json => report.jsonPieces

def render (format : Format) (coloured : Bool) (report : Report) : String :=
  String.join (report.pieces format coloured)

/-- What has become of a report that is written to a sink. The writer of JSON hides the fault of the
place it writes to in an error of its own, and making a fault of that error gives the hidden one
back. It could object to a value besides, but to none that a report has. So either format fails with
the fault of the sink, and the way there and back is left out. -/
def renderInto (sink : Terminal.Sink) (format : Format) (coloured : Bool) (report : Report) :
    Terminal.Written :=
  sink.write (report.pieces format coloured)

end Report

end Preflight
