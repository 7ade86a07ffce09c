/-! Reading symbol by symbol with a step that may refuse. What has been read of a text
decides how its rest is read, so texts that follow each other are read one after the other. -/
namespace AdTemplates.Text

variable {σ α : Type} {step : σ → α → Option σ}

/-- The state after all symbols, unless one is refused. -/
def scan (step : σ → α → Option σ) (s : σ) (symbols : List α) : Option σ :=
  symbols.foldlM step s

@[simp] theorem scan_nil (s : σ) : scan step s [] = some s := rfl

theorem scan_cons {s t : σ} {a : α} (symbols : List α) (h : step s a = some t) :
    scan step s (a :: symbols) = scan step t symbols := by
  rw [scan, List.foldlM_cons, h]
  rfl

theorem scan_append {s t : σ} {before : List α} (rest : List α)
    (h : scan step s before = some t) : scan step s (before ++ rest) = scan step t rest := by
  rw [scan] at h
  rw [scan, List.foldlM_append, h]
  rfl

end AdTemplates.Text
