import Mathlib.Data.List.Basic

/-!
# Guarded commits over one connection

A client that may commit only while a key exists watches the key, checks that it exists and sends
its pipeline as one `MULTI`/`EXEC`. Clients of one connection share its watch set: any `EXEC` or
`UNWATCH` clears all of it. An `EXEC` that is aborted answers nil, which a client that asks for a
list of replies reads as an empty one and takes for a commit.
-/

namespace Redis

/-- A store and the watch state of a connection to it. -/
structure Connection (σ κ : Type*) where
  store : σ
  /-- The keys the connection watches. -/
  watched : List κ
  /-- A watched key was touched, so the next `EXEC` is aborted. -/
  dirty : Bool

/-- Where a client is in a guarded commit. -/
inductive Commit where
  /-- `WATCH` is next. -/
  | watching
  /-- `EXISTS` is next. -/
  | checking
  /-- The key was gone; `UNWATCH` is next. -/
  | unwatching
  /-- The key was there; `EXEC` is next. -/
  | committing
  /-- The client has returned, with what it took for the outcome. -/
  | returned (committed : Bool)
deriving DecidableEq

/-- A pipeline and the key it is guarded by. -/
structure Guarded (σ κ : Type*) where
  key : κ
  /-- `EXISTS` of the key. -/
  held : σ → Bool
  apply : σ → σ

variable {σ κ : Type*}

/-- A new connection. -/
def Connection.fresh (store : σ) : Connection σ κ := ⟨store, [], false⟩

/-- `WATCH`. A dirty connection watches nothing more. -/
def Connection.watch (connection : Connection σ κ) (key : κ) : Connection σ κ :=
  { connection with
    watched := if connection.dirty then connection.watched else key :: connection.watched }

/-- `UNWATCH`. A connection that takes the place of a broken one watches nothing either. -/
def Connection.unwatch (connection : Connection σ κ) : Connection σ κ :=
  { connection with watched := [], dirty := false }

/-- `EXEC`. -/
def Connection.exec (connection : Connection σ κ) (apply : σ → σ) : Connection σ κ :=
  { store := if connection.dirty then connection.store else apply connection.store
    watched := []
    dirty := false }

/-- A command that touches some keys, whoever sends it. -/
def Connection.touch [DecidableEq κ] (connection : Connection σ κ) (store : σ) (keys : List κ) :
    Connection σ κ :=
  { connection with
    store
    dirty := connection.dirty || keys.any fun key => decide (key ∈ connection.watched) }

/-- The connection after a client's next command, and where the client is then. -/
def Connection.command (guarded : Guarded σ κ) (connection : Connection σ κ) :
    Commit → Connection σ κ × Commit
  | .watching => (connection.watch guarded.key, .checking)
  | .checking =>
    (connection, if guarded.held connection.store then .committing else .unwatching)
  | .unwatching => (connection.unwatch, .returned false)
  | .committing => (connection.exec guarded.apply, .returned true)
  | .returned committed => (connection, .returned committed)

end Redis
