import PushRegistry.Client.Operation
import PushRegistry.Registry.Server

/-!
# `PushRegistry.Session`: clients at work

A session is a list of operations that one client performs after another, with the result of
each of them.
-/

set_option autoImplicit false

namespace PushRegistry.Session

open PushRegistry.Client (Operation Outcome)
open PushRegistry.Http (Peer)
open PushRegistry.Registry (Server Arrival Reply)

variable [Http.Web] {σ : Type}

/-- An operation and what came of it. -/
structure Performed where
  operation : Operation
  outcome : Outcome operation

/-- Performs operations in order. -/
def run (peer : Peer σ) (server : ServerAddress) : List Operation → σ → List Performed × σ
  | [], s => ([], s)
  | op :: rest, s =>
    let (outcome, s) := Client.perform peer server op s
    let (performed, s) := run peer server rest s
    (⟨op, outcome⟩ :: performed, s)

/-- Sends requests to a server as they are, in order. -/
def serve : List Arrival → Server → List Reply × Server
  | [], server => ([], server)
  | a :: rest, server =>
    let (reply, server) := server.handle a
    let (replies, server) := serve rest server
    (reply :: replies, server)

end PushRegistry.Session
