import Brokerage.Account.DatabaseBackend
import Brokerage.Account.IdentityBackend

/-!
Backends whose calls can be made to fail. A call is noted, then the next entry scripted for it is
taken: an error is the answer and the backend hears nothing, and without one the backend answers.
-/

namespace Brokerage

/-- What the next calls of each name come to: an error, or the backend's own answer. -/
abbrev Script (ε : Type) := List (String × List (Option ε))

namespace Script

variable {ε : Type}

/-- The next entry under `name`, and the script without it. -/
def next (name : String) : Script ε → Option ε × Script ε
  | [] => (none, [])
  | (n, queue) :: rest =>
    if n = name then
      match queue with
      | [] => (none, (n, []) :: rest)
      | entry :: queue => (entry, (n, queue) :: rest)
    else
      let (entry, rest) := next name rest
      (entry, (n, queue) :: rest)

/-- Adds entries under `name`, after those that are there. -/
def append (name : String) (entries : List (Option ε)) : Script ε → Script ε
  | [] => [(name, entries)]
  | (n, queue) :: rest =>
    if n = name then (n, queue ++ entries) :: rest else (n, queue) :: append name entries rest

end Script

/-- A backend of type `σ` with its notes and its script. -/
structure Scripted (σ : Type) where
  backend : σ
  calls : List String := []
  script : Script CredentialError := []

namespace Scripted

variable {σ α : Type}

/-- Answers a call of the given name, noted as `note?`, from the script or by `answer`. -/
def answerWith (name : String) (note? : Option String)
    (answer : σ → Except CredentialError α × σ) (s : Scripted σ) :
    Except CredentialError α × Scripted σ :=
  let calls := s.calls ++ note?.toList
  match s.script.next name with
  | (some e, script) => (.error e, { s with calls := calls, script := script })
  | (none, script) =>
    let (result, backend) := answer s.backend
    (result, ⟨backend, calls, script⟩)

def answerIdentity (call : IdentityCall) (s : Scripted IdentityBackend) :
    Except CredentialError call.Value × Scripted IdentityBackend :=
  s.answerWith call.name (some call.note) (IdentityBackend.answer call)

def answerDatabase (call : DatabaseCall) (s : Scripted DatabaseBackend) :
    Except CredentialError call.Value × Scripted DatabaseBackend :=
  s.answerWith call.name call.note? (DatabaseBackend.answer call)

/-- Runs a program against a scripted identity backend. -/
def runIdentity (program : IdentityProgram α) (s : Scripted IdentityBackend) :
    Except CredentialError α × Scripted IdentityBackend :=
  Program.run answerIdentity program.run s

/-- Runs a program against a scripted database backend. -/
def runDatabase (program : DatabaseProgram α) (s : Scripted DatabaseBackend) :
    Except CredentialError α × Scripted DatabaseBackend :=
  Program.run answerDatabase program.run s

end Scripted

end Brokerage
