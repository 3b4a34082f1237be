import DumbBrowser.Scripts.BuildScripts

/-!
# What the scripts report

The result of a script should tell whether its commands succeeded.

* `scripts_report` : the outcomes of the commands for which each script does.
-/

namespace DumbBrowser.Scripts

open Python

/-! ## Reports -/

section Reports
variable (env : Env) (c : Checkout)

end Reports

end DumbBrowser.Scripts
