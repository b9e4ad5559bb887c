import TableQuery.Store.Basic

/-! Scripted stores: a program runs against answers that are given in advance. The statements that reach
    the driver are recorded, whatever comes of them. -/

namespace TableQuery

/-- What a driver does with one statement. -/
inductive Reply
  /-- It answers; which part counts depends on how the statement is run. -/
  | answer (rows : List Row) (value : Value) (written : WriteResult)
  /-- It fails. -/
  | raised (f : Failure)
  /-- It never ends. -/
  | hangs
  deriving Repr, Inhabited

namespace Reply

/-- The answer of a driver that has nothing to say. -/
def nothing : Reply := .answer [] .null ⟨.int 0, .null, []⟩

/-- What a reply amounts to for a statement that is run in the given way. -/
def outcome (kind : RequestKind) (r : Reply) : Outcome kind.Answer :=
  match r with
  | .raised f => .error f
  | .hangs => .error (.timeout [])
  | .answer rows value written =>
    match kind with
    | .rows => .ok rows
    | .value => .ok value
    | .write _ => .ok written

end Reply

/-- A statement as it reached the driver. -/
structure Sent where
  kind : RequestKind
  sql : String
  params : List Value
  deriving Repr

/-- What is to come: the replies to the next statements, and the keys of the generator. When they run out
    there is nothing more. -/
structure Script where
  replies : List Reply
  keys : List Value
  deriving Repr

/-- A finished run: how it ended, what was sent, and what is left of the script. -/
structure Run (α : Type) where
  outcome : Outcome α
  sent : List Sent
  rest : Script

namespace Script

/-- The next reply. -/
def reply (s : Script) : Reply × Script :=
  match s.replies with
  | r :: rest => (r, { s with replies := rest })
  | [] => (Reply.nothing, s)

/-- The next key. -/
def key (s : Script) : Value × Script :=
  match s.keys with
  | k :: rest => (k, { s with keys := rest })
  | [] => (.null, s)

end Script

namespace Store

/-- Sends a statement: how that ends, what reached the driver, and what is left of the script. A statement
    that cannot be rendered, or is not started, does not reach the driver. -/
def send (st : Store) (r : Request) (s : Script) : Outcome r.kind.Answer × List Sent × Script :=
  match st.render r.statement with
  | .error f => (.error f, [], s)
  | .ok (sql, params) =>
    let limit := st.limit r.timeout
    match notStarted? r.kind limit with
    | some f => (.error f, [], s)
    | none =>
      let (reply, rest) := s.reply
      ((reply.outcome r.kind).mapError (refusal r.kind limit), [⟨r.kind, sql, params⟩], rest)

/-- Runs a program. -/
def run {α : Type} (st : Store) (p : Program α) (s : Script) : Run α :=
  match p with
  | .done a => ⟨.ok a, [], s⟩
  | .fail f => ⟨.error f, [], s⟩
  | .draw next =>
    let (k, rest) := s.key
    run st (next k) rest
  | .ask r next =>
    match st.send r s with
    | (.error f, sent, rest) => ⟨.error f, sent, rest⟩
    | (.ok a, sent, rest) =>
      let tail := run st (next a) rest
      { tail with sent := sent ++ tail.sent }

end Store

end TableQuery
