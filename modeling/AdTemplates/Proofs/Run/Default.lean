import AdTemplates.Proofs.Config.Candidates
import AdTemplates.Proofs.Output.DefaultPath
import AdTemplates.Proofs.Run.Order

/-! A run for which neither output nor configuration is named. It writes beside its input,
under a name that is neither that of the input nor one of the configuration file there. All
that it has read is therefore as it was when it is repeated, and it does the same again. -/
namespace AdTemplates

open FileTree (follow)
open AdTemplates.Path (IsName)
open Text.Utf8 (encode)

namespace Run

variable {r : Request} {t t' : FileTree} {o : Config.Traversal}

/-- The directory in which the configuration file is looked for. -/
def Request.directory (r : Request) : Path := r.input.parent?.getD ⟨[]⟩

end Run
end AdTemplates
