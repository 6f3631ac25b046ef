import TableQuery.Config
import TableQuery.Join.Records
import TableQuery.Log.Scope
import TableQuery.Order.Sorting
import TableQuery.Projection
import TableQuery.Request.Reading
import TableQuery.Run

/-! The engine that answers queries.

It loads the main table, joins, filters, sorts and projects, in this order. The first failure
ends a query, and nothing partial is returned.
-/

set_option autoImplicit false

namespace TableQuery

structure Engine where
  source : Source
  config : Config

/-- What a query is known by in the log, and the milliseconds that it took. -/
structure Stamp where
  id : String
  elapsed : String
  deriving DecidableEq, Repr

/-- What an engine is asked to answer. -/
inductive Call where
  | query (text : String)
  | request (request : Request)

namespace Engine

def sizeText {α : Type} (items : List α) : String :=
  String.ofList (Nat.toDigits 10 items.length)

def note (engine : Engine) (stamp : Stamp) (event : Event) (fields : Fields) : Run Unit :=
  Run.write
    (if engine.config.logEvents then [.ofEvent event (("query_id", stamp.id) :: fields)] else [])

def load (engine : Engine) (stamp : Stamp) (table : String) : Run Table := do
  let rows ← Run.ofExcept ((engine.source table).mapError .source)
  Run.count (.rowsLoaded rows.length)
  engine.note stamp .tableLoaded [("table", table), ("rows", sizeText rows)]
  return rows

/-- The fields of the records that a join makes: those to show, and those that are only read. -/
def recordFields (request : Request) (shown : List String) : List String :=
  addMissing shown request.auxiliaryFields

/-- The rows to filter and sort, and the fields to show of them. -/
def workingRows (engine : Engine) (stamp : Stamp) (request : Request) :
    Run (Table × List String) := do
  let main ← engine.load stamp request.table
  match request.join with
  | none => return (main, request.fields)
  | some join =>
    let joined ← engine.load stamp join.table
    let shown := expandWildcard request.fields request.table main join.table joined
    let records :=
      join.kind.records join.keys request.table (recordFields request shown) main joined
    Run.count (.rowsJoined records.length)
    engine.note stamp .joinApplied [("kind", join.kind.keyword), ("rows", sizeText records)]
    return (records, shown)

def filterRows (engine : Engine) (stamp : Stamp) (request : Request) (rows : Table) : Run Table :=
  if request.conditions.isEmpty then return rows
  else do
    let kept ← Run.ofExcept
      ((rows.satisfying engine.config.likeMatching request.conditions).mapError .evaluation)
    Run.count (.rowsFilteredOut (rows.length - kept.length))
    engine.note stamp .filterApplied [("rows_in", sizeText rows), ("rows_out", sizeText kept)]
    return kept

def sortRows (engine : Engine) (stamp : Stamp) (request : Request) (rows : Table) : Run Table :=
  match request.orderBy with
  | some keys =>
    if engine.config.applyOrderBy then do
      engine.note stamp .sortApplied [("keys", sizeText keys)]
      return rows.sort keys
    else return rows
  | none => return rows

def answerRequest (engine : Engine) (stamp : Stamp) (request : Request) : Run Table := do
  let (rows, shown) ← engine.workingRows stamp request
  let kept ← engine.filterRows stamp request rows
  let sorted ← engine.sortRows stamp request kept
  return sorted.map (·.project shown)

/-- Logs an aggregate call without grouping, and refuses the query if the settings say so. -/
def checkAggregate (engine : Engine) (stamp : Stamp) (query : String) (request : Request) :
    Run Unit :=
  if request.ungroupedAggregate then do
    engine.note stamp .ungroupedAggregate [("table", request.table)]
    if engine.config.rejectUngroupedAggregate then do
      engine.note stamp .queryRejected [("reason", "ungrouped aggregate")]
      Run.fail (.ungroupedAggregate (String.ofList (Text.trim query.toList)))
  else return ()

def answerQuery (engine : Engine) (stamp : Stamp) (query : String) : Run Table := do
  let request ← Run.ofExcept ((Request.ofText query).mapError .rejected)
  engine.note stamp .queryParsed
    [("table", request.table), ("join", (request.join.map Join.table).getD "none"),
     ("conditions", sizeText request.conditions)]
  engine.checkAggregate stamp query request
  engine.answerRequest stamp request

def answer (engine : Engine) (stamp : Stamp) : Call → Run Table
  | .query text => engine.answerQuery stamp text
  | .request request => engine.answerRequest stamp request

def scope (engine : Engine) (stamp : Stamp) : Scope :=
  .start "QUERY" [("query_id", stamp.id)] engine.config.logEvents

def ending (stamp : Stamp) : Except QueryError Table → Scope.Ending
  | .ok rows => .complete [("rows", sizeText rows)] stamp.elapsed
  | .error error => .fail (error.code ++ ": " ++ error.text)

def closingMetrics : Except QueryError Table → Metrics
  | .ok rows => Count.queryExecuted.metrics + (Count.rowsReturned rows.length).metrics
  | .error _ => Count.queryFailed.metrics

def run (engine : Engine) (stamp : Stamp) (call : Call) : Run Table :=
  let scope := engine.scope stamp
  let body := engine.answer stamp call
  { result := body.result
    metrics := body.metrics + closingMetrics body.result
    log := scope.startLines ++ body.log ++ scope.endLines (ending stamp body.result) }

structure Reply where
  run : Run Table
  metrics : Metrics

def runAll (engine : Engine) (metrics : Metrics) : List (Stamp × Call) → List Reply
  | [] => []
  | (stamp, call) :: rest =>
    let run := engine.run stamp call
    ⟨run, metrics + run.metrics⟩ :: engine.runAll (metrics + run.metrics) rest

end Engine

end TableQuery
