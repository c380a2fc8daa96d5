import MonitorCore.Settings.Yaml.Grammar
import MonitorCore.Settings.Yaml.Layout

/-!
# YAML documents

A text is read in two steps: into tokens, which takes account of indentation (`Yaml.Layout`), and
from tokens into a value (`Yaml.Grammar`). A text of several documents is refused.
-/

namespace MonitorCore.Yaml

def read (s : String) : Option Document :=
  ((tokensOf s).bind readStream).bind Node.toDocument?

end MonitorCore.Yaml
