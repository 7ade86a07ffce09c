import AdTemplates.Config.Loader
import AdTemplates.Proofs.FileTree.Destination
import AdTemplates.Proofs.Path.FileName
import Mathlib.Data.List.Find

/-! Where a configuration file is looked for, and that nothing else in the tree matters to the
settings. -/
namespace AdTemplates.Config

open AdTemplates.Path (IsName)
open Text.Utf8 (encode)

variable {t t' : FileTree}

namespace Source

end Source

namespace Loader

end Loader

end AdTemplates.Config
