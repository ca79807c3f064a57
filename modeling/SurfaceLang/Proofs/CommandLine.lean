import SurfaceLang.Command
import SurfaceLang.Proofs.Logging
import SurfaceLang.Proofs.Sampling

namespace SurfaceLang

namespace Text

end Text

namespace Command

def listed (o : Options) : List String :=
  if o.tokens then (tokens o.expression).map Token.listing else []

/-- A logger that shows errors only, and nothing for a log without them. -/
structure Logger.ShowsErrors (logger : Logger) : Prop where
  nil : logger [] = ""
  only : ∀ records, logger records = logger (records.filter (·.level = .error))

theorem Logger.ShowsErrors.silent {logger : Logger} (shows : logger.ShowsErrors) {o : Options}
    (inRange : ∀ text,
      (parseWithin o.maxDepth o.expression).result ≠ .error (.node (.outOfRange text))) :
    logger (Grammar.account (parseWithin o.maxDepth o.expression).result) = "" := by
  rw [shows.only]
  cases result : (parseWithin o.maxDepth o.expression).result with
  | ok surface => exact shows.nil
  | error error =>
    cases error with
    | node cause =>
      obtain ⟨text, rfl⟩ := Grammar.exists_outOfRange result
      exact absurd result (inRange text)
    | missing | unknown | unexpected | tooDeep => exact shows.nil

end Command

end SurfaceLang
