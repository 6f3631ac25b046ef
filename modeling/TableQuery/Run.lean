import TableQuery.Condition.Evaluation
import TableQuery.Log.Line
import TableQuery.Metrics
import TableQuery.Query.Rejection
import TableQuery.Source

/-! Steps of queries, which may fail, and which count and log what they do. -/

set_option autoImplicit false

namespace TableQuery

inductive QueryError where
  | rejected (rejection : Rejection)
  | evaluation (error : EvaluationError)
  | source (error : SourceError)
  /-- An aggregate call without grouping in a query, refused by the settings. -/
  | ungroupedAggregate (query : String)
  deriving DecidableEq, Repr

namespace QueryError

def code : QueryError → String
  | rejected rejection => rejection.code
  | evaluation error => error.code
  | source error => if error.isMissing then "SOURCE_TABLE_NOT_FOUND" else "SOURCE_READ_FAILED"
  | ungroupedAggregate _ => "QUERY_UNGROUPED_AGGREGATE"

def text : QueryError → String
  | rejected rejection => rejection.text
  | evaluation error => error.text
  | source error => error.text
  | ungroupedAggregate query => "Aggregate function requires GROUP BY: " ++ query

end QueryError

/-- A step that has been run. A step that fails keeps what it counted and logged before. -/
@[ext] structure Run (α : Type) where
  result : Except QueryError α
  metrics : Metrics
  log : List LogLine

namespace Run

variable {α β : Type}

protected def pure (value : α) : Run α :=
  ⟨.ok value, 0, []⟩

protected def bind (first : Run α) (next : α → Run β) : Run β :=
  match first.result with
  | .error error => ⟨.error error, first.metrics, first.log⟩
  | .ok value =>
    let second := next value
    ⟨second.result, first.metrics + second.metrics, first.log ++ second.log⟩

instance : Monad Run where
  pure := Run.pure
  bind := Run.bind

def ofExcept (result : Except QueryError α) : Run α :=
  ⟨result, 0, []⟩

def fail (error : QueryError) : Run α :=
  ofExcept (.error error)

def count (count : Count) : Run Unit :=
  ⟨.ok (), count.metrics, []⟩

def write (lines : List LogLine) : Run Unit :=
  ⟨.ok (), 0, lines⟩

theorem bind_ok {first : Run α} {value : α} (succeeded : first.result = .ok value)
    (next : α → Run β) :
    first >>= next =
      ⟨(next value).result, first.metrics + (next value).metrics,
        first.log ++ (next value).log⟩ := by
  show Run.bind first next = _
  simp only [Run.bind, succeeded]

theorem bind_error {first : Run α} {error : QueryError} (failed : first.result = .error error)
    (next : α → Run β) : first >>= next = ⟨.error error, first.metrics, first.log⟩ := by
  show Run.bind first next = _
  simp only [Run.bind, failed]

/-- The laws of sequencing: what is counted adds up, what is logged is appended. -/
instance : LawfulMonad Run := LawfulMonad.mk' Run
  (by
    intro α step
    obtain ⟨result, metrics, log⟩ := step
    cases result <;> simp [Functor.map, Run.bind, Run.pure, Metrics.add_zero])
  (by
    intro α β value next
    show Run.bind (Run.pure value) next = next value
    simp [Run.bind, Run.pure, Metrics.zero_add])
  (by
    intro α β γ step next last
    obtain ⟨result, metrics, log⟩ := step
    show Run.bind (Run.bind _ next) last = Run.bind _ fun value => Run.bind (next value) last
    cases result with
    | error error => simp [Run.bind]
    | ok value =>
      simp only [Run.bind]
      cases (next value).result <;> simp [Metrics.add_assoc])

end Run

end TableQuery
