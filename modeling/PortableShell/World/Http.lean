import PortableShell.Text.Utf8

/-!
# Fetching documents

What a server does when a document is asked for.

## Main definitions

* `HttpFault`: what can go wrong, and `HttpFault.Kind`, in which way.
* `HttpAnswer`: what a server does.
* `HttpRequest`: a document that was asked for.
-/

namespace PortableShell

open Utf8 (Bytes)

/-- The ways in which fetching a document can go wrong. -/
inductive HttpFault.Kind where
  /-- The server says that it failed. -/
  | status
  | connection
  | connectTimeout
  | readTimeout
  | timeout
  | chunked
  | security
  | request
  | invalidUrl
  deriving DecidableEq, Repr

namespace HttpFault.Kind

/-- Whether no connection came about.  Running out of time while connecting is one such way. -/
def isConnection : HttpFault.Kind → Bool
  | .connection | .connectTimeout | .security => true
  | _ => false

/-- Whether the time ran out. -/
def isTimeout : HttpFault.Kind → Bool
  | .connectTimeout | .readTimeout | .timeout => true
  | _ => false

end HttpFault.Kind

/-- Something that goes wrong with fetching a document. -/
structure HttpFault where
  kind : HttpFault.Kind
  text : Text
  deriving DecidableEq, Repr

/-- What a server does when a document is asked for. -/
structure HttpAnswer where
  /-- What goes wrong before there is an answer. -/
  connectFault : Option HttpFault := none
  /-- What the answer itself says is wrong. -/
  statusFault : Option HttpFault := none
  /-- The pieces of the document that arrive. -/
  chunks : List Bytes := []
  /-- What goes wrong after them. -/
  bodyFault : Option HttpFault := none
  deriving DecidableEq, Repr

/-- A document that was asked for. -/
structure HttpRequest where
  url : Text
  /-- Whether the document is wanted piece by piece. -/
  streamed : Bool
  /-- How many seconds the server may take. -/
  timeout : Nat
  deriving DecidableEq, Repr

end PortableShell
