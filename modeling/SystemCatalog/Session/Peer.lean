import SystemCatalog.Session.Reading

/-!
# Peers

Each connection reaches a server of its own, its peer, which does not change while the connection
lasts.  A statement suits a peer when it is written for the version of the engine that the peer
reports and by the peer's rule for literals.
-/

namespace SystemCatalog.Session

open Catalog (Filters Kind Query)
open Session.Action

/-- Whether two servers report the same version of the engine and the same rule for literals. -/
def Server.Alike (a b : Server) : Prop :=
  a.version? = b.version? ∧ a.quoting = b.quoting

/-- Whether a query that is written by a rule for literals suits a server. -/
def Suits (query : Query) (quoting : Sql.Quoting) (peer : Server) : Prop :=
  peer.version? = some query.version ∧ quoting = peer.quoting

namespace State

def Live (s : State) : Prop := ∃ link, s.link = some link ∧ link.dropped = false

def Dropped (s : State) : Prop := ∃ link, s.link = some link ∧ link.dropped = true

/-- The peers of connections after the session has come from `s` to `t` without a change of the
server: those of new connections are the server itself. -/
def peers (s t : State) (peer : Nat → Server) (n : Nat) : Server :=
  if n ≤ s.generation then peer n else t.server

end State

/-- What can happen to the connection of a session at any time: it drops, and the server changes,
though a live connection keeps its version and its rule for literals. -/
inductive Weather (s : State) : State → Prop where
  | calm : Weather s s
  | drop {t : State} (before : Weather s t) :
      Weather s { t with link := t.link.map fun link => { link with dropped := true } }
  | alter {t : State} (before : Weather s t) (g : Server → Server)
      (steady : t.Live → (g t.server).Alike t.server) :
      Weather s { t with server := g t.server }

/-- The states that a session can reach, each with the peers of its connections. -/
inductive Reached (start : State) : State → (Nat → Server) → Prop where
  | start : Reached start start fun _ => start.server
  | step {s : State} {peer : Nat → Server} (before : Reached start s peer) (step : Step)
      (driven : step.isRenewal = false)
      (steady : ∀ g, step = .alter g → s.Live → (g s.server).Alike s.server) :
      Reached start (s.perform step.action).2 (s.peers (s.perform step.action).2 peer)
  | moved {s t : State} {peer : Nat → Server} (before : Reached start s peer)
      (g : Server → Server) (request : Connection.Request) {reply : Reply}
      (connected : (s.perform (Step.alter g).action).2.perform (Step.connect request).action =
        (.ok reply, t)) :
      Reached start t (s.peers t peer)
  | lookup {s u v : State} {peer : Nat → Server} (before : Reached start s peer) {kind : Kind}
      {filters : Filters} {query : Query}
      (written : writeQuery kind filters s.cleared = .ok query u) (weather : Weather u v) :
      Reached start ((fetch query).final v) (v.peers ((fetch query).final v) (s.peers u peer))

/-- A lookup of a session that has started in `start`, between whose query and whose statement
anything can happen to the connection. -/
structure Sending (start : State) where
  kind : Kind
  filters : Filters
  before : State
  peer : Nat → Server
  reached : Reached start before peer
  query : Query
  written : State
  writes : writeQuery kind filters before.cleared = .ok query written
  sending : State
  weather : Weather written sending

namespace Sending

variable {start : State} (l : Sending start)

def after : State := (fetch l.query).final l.sending

def events : List Event := l.after.events.drop l.sending.events.length

/-- The peer of the connection that was the last one when the query was written. -/
def writtenFor : Server := l.before.peers l.written l.peer l.written.generation

def peerOf (n : Nat) : Server := l.sending.peers l.after (l.before.peers l.written l.peer) n

end Sending

end SystemCatalog.Session
