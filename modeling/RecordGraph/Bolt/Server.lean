import RecordGraph.Bolt.Driver
import RecordGraph.Settings.Basic

/-!
# A scripted server

A server whose replies are laid down, and the driver's side of a connection to it. The
connection is made when it is first needed and used again until it breaks. A server that
cannot be reached loses every connection before it is made.
-/

namespace RecordGraph.Bolt

/-- What a server replies. -/
inductive Reply
  | ok
  | fail (code message : String)
  /-- The connection is closed. -/
  | drop
  /-- Success with rows of one column. -/
  | rows (column : String) (values : List Value)

/-- What a server was asked. -/
inductive Request
  | hello (user password : String)
  | begin_ (database : String)
  | run (database text : String) (params : PropertyMap)
  | commit
  | rollback
  | pull (rows : Nat)

structure Server where
  settings : ServerSettings
  reachable : Bool
  /-- Replies to greetings still to come. -/
  greetings : List Reply
  /-- All other replies still to come. -/
  replies : List Reply
  connected : Bool
  /-- Whether anything was asked before. -/
  used : Bool
  /-- What was asked, the oldest first. -/
  requests : List Request

namespace Server

/-- A server that was not asked anything. -/
def start (settings : ServerSettings) (reachable : Bool) (greetings replies : List Reply) :
    Server := ⟨settings, reachable, greetings, replies, false, false, []⟩

/-- The name of the database in requests. -/
def database (s : Server) : String := s.settings.database.getD "neo4j"

def asked (s : Server) (r : Request) : Server := { s with requests := s.requests ++ [r] }

/-- The next reply to a request. -/
def reply (s : Server) (r : Request) : Reply × Server :=
  (s.replies.headD .ok, { s.asked r with replies := s.replies.tail })

/-- Greets the server. -/
def greet (s : Server) : Except Failure Unit × Server :=
  let reply := s.greetings.headD .ok
  let s := { s.asked (.hello s.settings.user s.settings.password) with
    greetings := s.greetings.tail, used := true }
  match reply with
  | .ok | .rows .. => (.ok (), { s with connected := true })
  | .fail _ message => (.error (.other message), s)
  | .drop => (.error .lost, s)

/-- Makes sure that there is a connection. -/
def connect (s : Server) : Except Failure Unit × Server :=
  if s.connected then (.ok (), s)
  else if s.reachable then s.greet
  else (.error .lost, s)

/-- Makes sure that there is a connection, greeting until that succeeds. -/
def connectAgain : Nat → Server → Except Failure Unit × Server
  | 0, s => s.connect
  | left + 1, s =>
      match s.connect with
      | (.error _, s) => connectAgain left s
      | connected => connected

/-- The reply to a request on the connection, where a refusal becomes the given failure. -/
def ask (s : Server) (r : Request) (refusal : String → String → Failure) :
    Except Failure Reply × Server :=
  match s.reply r with
  | (.drop, s) => (.error .lost, { s with connected := false })
  | (.fail code message, s) => (.error (refusal code message), s)
  | (reply, s) => (.ok reply, s)

/-- The failure of a request that must not be refused. -/
def unexpected (name : String) : String → String → Failure :=
  fun _ _ => .other ("unexpected response for " ++ name)

/-- An outcome without the reply. -/
def done (r : Except Failure Reply × Server) : Except Failure Unit × Server :=
  (r.1.map fun _ => (), r.2)

def begin? (s : Server) : Except Failure Unit × Server :=
  match s.connect with
  | (.error f, s) => (.error f, s)
  | (.ok (), s) => done (s.ask (.begin_ s.database) (unexpected "BEGIN"))

def runRequest (s : Server) (statement : Statement) : Request :=
  .run s.database statement.text statement.params

def run (statement : Statement) (s : Server) : Except Failure Unit × Server :=
  done (s.ask (s.runRequest statement) Failure.ofServer)

/-- Ends a transaction; without a connection there is nothing left to end. -/
def finish (r : Request) (name : String) (s : Server) : Except Failure Unit × Server :=
  if s.connected then done (s.ask r (unexpected name)) else (.error .lost, s)

/-- Rows in portions of at most the given size. There is always one portion to ask for. -/
def portions (size : Nat) : Nat → List Row → List (List Row)
  | 0, rows => [rows]
  | fuel + 1, rows =>
      if rows.length ≤ size then [rows]
      else rows.take size :: portions size fuel (rows.drop size)

/-- Runs a read. A refusal that another attempt may overcome is not the last word, as long
as there are replies left. -/
def queryAgain (statement : Statement) : Nat → Server → Except Failure Reply × Server
  | 0, s => s.ask (s.runRequest statement) Failure.ofServer
  | left + 1, s =>
      match s.ask (s.runRequest statement) Failure.ofServer with
      | (.error (.refused code message), s) =>
          if Failure.isRetryable code then queryAgain statement left s
          else (.error (.refused code message), s)
      | r => r

def query (statement : Statement) (s : Server) : Except Failure Stream × Server :=
  let greeted := if s.used ∨ ¬ s.reachable then s.connect else connectAgain s.greetings.length s
  match greeted with
  | (.error f, s) => (.error f, s)
  | (.ok (), s) =>
      match queryAgain statement s.replies.length s with
      | (.error f, s) => (.error f, s)
      | (.ok (.rows column values), s) =>
          let rows := values.map fun v => [(column, v)]
          (.ok ⟨portions s.settings.fetchSize.toNat rows.length rows, none⟩, s)
      | (.ok _, s) => (.ok ⟨[[]], none⟩, s)

/-- The driver of a connection to the server. -/
def driver : Driver Server where
  start := begin?
  run := run
  rollback := finish .rollback "ROLLBACK"
  commit := finish .commit "COMMIT"
  query := query
  pull s := s.asked (.pull s.settings.fetchSize.toNat)
  present := Value.toJson?

end Server

end RecordGraph.Bolt
