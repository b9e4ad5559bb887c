import TableQuery.Driver.Basic
import TableQuery.Json.Writer
import TableQuery.Number.Numeral
import TableQuery.Text.Pieces

/-! Statements on a PostgreSQL connection, or on a pool of them. The codecs of the JSON types are set up
    once for each server process. -/

namespace TableQuery

namespace PostgreSql

/-- The text in which a value of a JSON type is sent. Text is sent as it is, for it is JSON already. -/
def encodeJson (v : Value) : Outcome String :=
  match v with
  | .text s => .ok s
  | v => match Json.write v with
    | .ok s => .ok s
    | .error e => .error (.misuse e.misuse)

/-- The count at the end of a status tag such as `UPDATE 3`; zero if there is none. -/
def countOfStatus (status : Value) : Outcome Int :=
  match status with
  | .text s => match readInt (afterLast ' ' s).toList with
    | .ok n => .ok n
    | .error _ => .ok 0
  | .bytes _ => .error (.misuse .bytesForText)
  | _ => .ok 0

/-- The types with codecs. -/
def jsonTypes : List String := ["json", "jsonb"]

/-- Sets up the codecs of a connection to a server process, unless that is done already. -/
def ensureCodecs (h : Handle) (registered : List Int) (process : Int) : Attempt Unit :=
  if registered.contains process then pure ()
  else
    let setup : Attempt Unit := jsonTypes.forM fun type => h.call (.setCodec type)
    match setup.outcome with
    | .ok _ => setup
    | .error f => if Attempt.isError f then ⟨setup.calls, .error .codecSetup⟩ else setup

/-- Runs a body on a connection with codecs; one from the pool is given back in any case. -/
def withSession {α : Type} (h : Handle) (pooled : Bool) (registered : List Int) (process : Int)
    (body : Attempt α) : Attempt α :=
  let main : Attempt α := do
    ensureCodecs h registered process
    body
  if pooled then do
    h.call .acquire
    main.ensuring (h.call .release).quietly
  else main

/-- Runs a statement. -/
def perform (h : Handle) (pooled : Bool) (registered : List Int) (process : Int) (kind : RequestKind)
    (sql : String) (params : List Value) : Attempt kind.Answer :=
  let inSession {α : Type} (body : Attempt α) : Attempt α := withSession h pooled registered process body
  match kind with
  | .rows => inSession (h.callFor (.fetch sql params) h.rows)
  | .value => inSession (h.callFor (.fetchValue sql params) h.value)
  | .write returning =>
    if returning then inSession (do
      let rows ← h.callFor (.fetch sql params) h.rows
      pure ⟨.int rows.length, .null, rows⟩)
    else do
      let status ← inSession (h.callFor (.execute sql params) h.status)
      match countOfStatus status with
      | .ok n => pure ⟨.int n, .null, []⟩
      | .error f => Attempt.fail f

/-- Whether a connection is at hand: a pool may refuse one. -/
def connects (h : Handle) (pooled : Bool) : Bool := !pooled || (h.fails .acquire).isNone

/-- The server processes with codecs after a statement on a connection to one of them. -/
def registeredAfter (h : Handle) (pooled : Bool) (registered : List Int) (process : Int) : List Int :=
  if !connects h pooled || registered.contains process then registered
  else if jsonTypes.all fun type => (h.fails (.setCodec type)).isNone then registered ++ [process]
  else registered

end PostgreSql

end TableQuery
