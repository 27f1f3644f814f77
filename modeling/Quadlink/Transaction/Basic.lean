/-!
# Words of the transaction protocol

The stages of a transaction, the actions that requests inside one name, and the isolation levels
that one can be opened with.
-/

namespace Quadlink

/-- Where a transaction stands. Committed and rolled back are final, also if the server has not
confirmed them. -/
inductive TransactionState
  | active
  | committed
  | rolledBack
  deriving Repr, DecidableEq

namespace TransactionState

def isFinal (state : TransactionState) : Bool := state != .active

def text : TransactionState → String
  | .active => "active"
  | .committed => "committed"
  | .rolledBack => "rolled back"

def shown : TransactionState → String
  | .active => "Active"
  | .committed => "Committed"
  | .rolledBack => "RolledBack"

end TransactionState

/-- What a request inside a transaction does. All actions go to one resource and are told apart by a
parameter. -/
inductive TransactionAction
  | get
  | add
  | delete
  | size
  | query
  | update
  | commit
  deriving Repr, DecidableEq

namespace TransactionAction

def text : TransactionAction → String
  | .get => "GET"
  | .add => "ADD"
  | .delete => "DELETE"
  | .size => "SIZE"
  | .query => "QUERY"
  | .update => "UPDATE"
  | .commit => "COMMIT"

/-- Reads wait for the read timeout, the others for the write timeout. -/
def isRead : TransactionAction → Bool
  | .get | .size | .query => true
  | _ => false

def all : List TransactionAction := [.get, .add, .delete, .size, .query, .update, .commit]

end TransactionAction

/-- How far a transaction is kept apart from others. -/
inductive IsolationLevel
  | none
  | readUncommitted
  | readCommitted
  | snapshotRead
  | snapshot
  | serializable
  deriving Repr, DecidableEq

/-- The IRI that names a level in the protocol. -/
def IsolationLevel.iri : IsolationLevel → String
  | .none => "http://www.openrdf.org/schema/sesame#NONE"
  | .readUncommitted => "http://www.openrdf.org/schema/sesame#READ_UNCOMMITTED"
  | .readCommitted => "http://www.openrdf.org/schema/sesame#READ_COMMITTED"
  | .snapshotRead => "http://www.openrdf.org/schema/sesame#SNAPSHOT_READ"
  | .snapshot => "http://www.openrdf.org/schema/sesame#SNAPSHOT"
  | .serializable => "http://www.openrdf.org/schema/sesame#SERIALIZABLE"

end Quadlink
