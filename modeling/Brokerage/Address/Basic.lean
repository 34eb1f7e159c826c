import Brokerage.Address.File
import Brokerage.Address.Server
import Brokerage.Schema.Migration

/-!
Addresses of databases. How an address starts tells what kind of database it is; the rest names a
file, or a server with a host, a port and options.
-/

namespace Brokerage

inductive Address where
  /-- A database that lives as long as its connection. -/
  | memory (writable : Bool)
  | file (name : Address.Filename)
  /-- A database on a server. -/
  | server
  deriving DecidableEq, Repr

namespace Address

/-- The layer that keeps files in memory makes a private database of every name. -/
def ofFilename (name : Filename) : Address :=
  let writable := !name.access.readOnly
  if name.isPrivate then memory writable
  else if name.layer? = some "memdb" then memory (writable && !name.frozen)
  else file name

def afterServer? (cs : List Char) : Option (List Char) :=
  (Text.after? "postgres://" cs).or (Text.after? "postgresql://" cs)

def unusable (fault : DatabaseFault) : MigrationError := .store (.database fault)

def parse (url : String) : Except MigrationError Address :=
  let cs := url.toList
  match Text.after? "sqlite:" cs, afterServer? cs with
  | some _, _ =>
    match File.read cs with
    | .ok name => .ok (ofFilename name)
    | .error fault => .error (unusable fault)
  | none, some rest =>
    match Server.fault? rest with
    | some fault => .error (unusable fault)
    | none => .ok server
  | none, none => .error (.unsupportedUrl (String.ofList (Text.cut ':' cs).1))

/-- The options of a server that are not heeded. -/
def ignoredOptions (url : String) : List (String × String) :=
  match afterServer? url.toList with
  | some rest => Server.ignored rest
  | none => []

end Address

end Brokerage
