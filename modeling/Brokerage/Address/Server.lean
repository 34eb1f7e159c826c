import Brokerage.Address.Numeric
import Brokerage.Record.Basic
import Brokerage.Text.Form
import Brokerage.Text.Quoted

/-!
Addresses of databases on servers, from what follows the two slashes: the credentials of a user, a
host with a port, the name of a database, and options. What can be wrong is found in this order.
-/

namespace Brokerage.Address.Server

open Text (pieces cut after?)

/-- An address taken apart, as far as it can be wrong. -/
structure Parts where
  host : List Char
  user : List Char
  password : List Char
  database : List Char
  options : List (String × String)

/-- `cs` without the controls and spaces at its end. -/
def trimEnd (cs : List Char) : List Char := (cs.reverse.dropWhile (·.toNat ≤ 0x20)).reverse

/-- `cs` without tabs and line ends. -/
def inOneLine (cs : List Char) : List Char :=
  cs.filter fun c => c != '\t' && c != '\n' && c != '\r'

/-- The end of what can name a user, a host and a port. -/
def endsAuthority (c : Char) : Bool := c = '/' || c = '?' || c = '#'

/-- What stands before the last `c`, if there is one, and what stands after it. -/
def cutLast (c : Char) (cs : List Char) : Option (List Char) × List Char :=
  match (pieces c cs).reverse with
  | [] => (none, [])
  | [piece] => (none, piece)
  | last :: before => (some (Text.joined c before.reverse), last)

/-- The host and what follows it: a slash, or the first colon that stands in no brackets. -/
def splitHost : Bool → List Char → List Char × List Char
  | _, [] => ([], [])
  | bracketed, c :: rest =>
    if endsAuthority c || (c = ':' && !bracketed) then ([], c :: rest)
    else
      let (host, after) := splitHost (c = '[' || (bracketed && c != ']')) rest
      (c :: host, after)

/-- A character that no name of a host has. -/
def isForbidden (c : Char) : Bool :=
  c.toNat = 0 || "\t\n\r #/:<>?@[\\]^|".toList.contains c

/-- What is wrong with a host by itself: one in brackets is numeric, and any other a name. -/
def hostFault? (host : List Char) : Option String :=
  if host.head? = some '[' then
    if host.getLast? = some ']' && Numeric.isGroups (host.drop 1).dropLast then none
    else some "invalid IPv6 address"
  else if host.any isForbidden then some "invalid domain character"
  else none

/-- What follows a port that can be used. The port is a number of 16 bits, and none is one too. -/
def afterPort? : Nat → List Char → Option (List Char)
  | _, [] => some []
  | port, c :: rest =>
    if Text.Numeral.isDigit c then
      let port := 10 * port + Text.Numeral.digitValue c
      if port < Nat.pow 2 16 then afterPort? port rest else none
    else if endsAuthority c || c = '\\' then some (c :: rest)
    else none

/-- The segments of a path without those that lead back. -/
def straightened (segments : List (List Char)) : List (List Char) :=
  let isDot (cs : List Char) : Bool := [".", "%2e"].contains (String.ofList cs).toLower
  let isDots (cs : List Char) : Bool :=
    ["..", ".%2e", "%2e.", "%2e%2e"].contains (String.ofList cs).toLower
  (segments.foldl
    (fun (back : List (List Char)) segment =>
      if isDots segment then back.drop 1
      else if isDot segment then back
      else segment :: back)
    []).reverse

/-- The name of the database that a path stands for. -/
def databaseOf (path : List Char) : List Char :=
  (Text.joined '/' (straightened (pieces '/' path))).dropWhile (· = '/')

/-- Takes an address apart, or says why it is none. -/
def parts (rest : List Char) : Except String Parts := do
  let rest := inOneLine (trimEnd rest)
  let authority := rest.takeWhile fun c => !endsAuthority c
  let (login, _) := cutLast '@' authority
  let rest := match login with
    | some login => rest.drop (login.length + 1)
    | none => rest
  if login = some [] && (rest.head?.map endsAuthority).getD false then throw "empty host"
  let (user, password) := cut ':' (login.getD [])
  let (host, rest) := splitHost false rest
  if let some reason := hostFault? host then throw reason
  let rest ← match rest with
    | ':' :: port =>
      if host = [] then throw "empty host"
      else
        match afterPort? 0 port with
        | some rest => pure rest
        | none => throw "invalid port number"
    | rest => pure rest
  if host = [] && (user ≠ [] || password ≠ []) then throw "empty host"
  let (front, query) := cut '?' (rest.takeWhile (· != '#'))
  return ⟨host, user, password, databaseOf front, Text.Form.pairs query⟩

def sslModes : List String :=
  ["disable", "allow", "prefer", "require", "verify-ca", "verify-full"]

/-- The options that are heeded, those for single settings of a session apart. -/
def optionNames : List String :=
  ["sslmode", "ssl-mode", "sslrootcert", "ssl-root-cert", "ssl-ca", "sslcert", "ssl-cert", "sslkey",
    "ssl-key", "statement-cache-capacity", "host", "hostaddr", "port", "dbname", "user", "password",
    "application_name", "options"]

def isHeeded (name : String) : Bool := optionNames.contains name || name.startsWith "options["

/-- What is wrong with an option. -/
def optionFault? (option : String × String) : Option DatabaseFault :=
  let (name, value) := option
  let number (bound : Nat) : Option DatabaseFault :=
    (Text.Numeral.fault? bound value).map fun fault => .configuration fault.message
  match name with
  | "sslmode" | "ssl-mode" =>
    if sslModes.contains value.toLower then none
    else some (.option ("unknown value " ++ Text.quoted value ++ " for `ssl_mode`"))
  | "statement-cache-capacity" => number (Nat.pow 2 64)
  | "port" => number (Nat.pow 2 16)
  | "hostaddr" =>
    if Numeric.isAddress value.toList then none
    else some (.configuration "invalid IP address syntax")
  | _ => none

/-- What is wrong with a part that is percent-encoded. -/
def textFault? (cs : List Char) : Option DatabaseFault :=
  match Text.Percent.decode cs with
  | .ok _ => none
  | .error fault => some (.configuration fault.message)

/-- What is wrong with the texts in an address. A host is a text only if it is a path. -/
def Parts.textFault? (p : Parts) : Option DatabaseFault :=
  let host := if (Text.Percent.bytes p.host).head? = some 47 then p.host else []
  [host, p.user, p.password, p.database].findSome? Server.textFault?

/-- What makes an address unusable. -/
def fault? (rest : List Char) : Option DatabaseFault :=
  match parts rest with
  | .error reason => some (.configuration reason)
  | .ok p => p.textFault?.or (p.options.findSome? optionFault?)

/-- The options that are not heeded, up to the first that is wrong. -/
def ignored (rest : List Char) : List (String × String) :=
  match parts rest with
  | .error _ => []
  | .ok p =>
    if p.textFault?.isSome then []
    else (p.options.takeWhile (optionFault? · |>.isNone)).filter (!isHeeded ·.1)

end Brokerage.Address.Server
