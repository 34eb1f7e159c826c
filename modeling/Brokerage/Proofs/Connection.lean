import Brokerage.Account.DatabaseUser
import Brokerage.Proofs.Text.Percent
import Brokerage.Text.Pieces

/-! The address by which an application connects. Whatever characters its credentials are made of,
the login can be read off the address, and so can the certificates of an address that carries them:
host, database and prefix are written as they are, but none of them stands in between. -/

namespace Brokerage

open Text (cut pieces)
open Text.Percent (encodeChars isSafe)

/-- The text under a name; what is missing or is no text counts as empty. -/
def Fields.textOf (credentials : Fields) (name : String) : String :=
  match credentials.get? name with
  | some (.str s) => s
  | _ => ""

theorem Fields.getD_text? (credentials : Fields) (name : String) :
    (credentials.text? name).getD "" = credentials.textOf name := by
  unfold text? textOf
  cases credentials.get? name with
  | none => rfl
  | some value => cases value <;> rfl

/-- What an address starts with, behind its prefix. -/
def DatabaseFlavor.scheme : DatabaseFlavor → String
  | .mySql => "mysql://"
  | .postgres => "postgres://"

/-- The option that every address has. -/
def DatabaseFlavor.mode : DatabaseFlavor → String
  | .mySql => "?ssl_mode=required"
  | .postgres => "?sslmode=require"

namespace DatabaseManager

/-- A credential as it is written into an address. -/
def written (credentials : Fields) (name : String) : List Char :=
  encodeChars (credentials.textOf name).toList

/-- A separator does not stand in what is written of a credential. -/
theorem not_mem_written {c : Char} (reserved : isSafe c = false) (credentials : Fields)
    (name : String) : c ∉ written credentials name :=
  Text.Percent.not_mem_encodeChars reserved _

theorem encode_toList (credentials : Fields) (name : String) :
    (Text.Percent.encode (credentials.textOf name)).toList = written credentials name :=
  String.toList_ofList

/-- What stands before the first `@`, prefix and scheme aside. -/
def login (credentials : Fields) : List Char :=
  written credentials "Username" ++ ':' :: written credentials "Password"

/-- Host, database and the first option. -/
def place (flavor : DatabaseFlavor) (credentials : Fields) : List Char :=
  (credentials.textOf "host" ++ "/" ++ credentials.textOf "database_name" ++ flavor.mode).toList

/-- An option whose value is a credential. -/
def option (name : String) (credentials : Fields) (of : String) : List Char :=
  name.toList ++ written credentials of

/-- The options that certificates are written as. -/
def certificates (credentials : Fields) : List (List Char) :=
  [option "sslcert=" credentials "ClientCert", option "sslkey=" credentials "ClientKey",
    option "sslrootcert=" credentials "CaCert"]

/-- What follows the first option. -/
def carried (flavor : DatabaseFlavor) (credentials : Fields) : List (List Char) :=
  match flavor with
  | .mySql => []
  | .postgres => certificates credentials

/-- What stands behind the first `@`. -/
def location (flavor : DatabaseFlavor) (credentials : Fields) : List Char :=
  place flavor credentials ++ (carried flavor credentials).flatMap ('&' :: ·)

/-- An address without its prefix and scheme. -/
def body (m : DatabaseManager) (credentials : Fields) : List Char :=
  login credentials ++ '@' :: location m.flavor credentials

theorem connectionUri_toList (m : DatabaseManager) (credentials : Fields) :
    (m.connectionUri credentials).toList =
      (credentials.textOf "UriPrefix" ++ m.flavor.scheme).toList ++ m.body credentials := by
  have cert : "?sslmode=require&sslcert=".toList =
    "?sslmode=require".toList ++ '&' :: "sslcert=".toList := rfl
  have key : "&sslkey=".toList = '&' :: "sslkey=".toList := rfl
  have authority : "&sslrootcert=".toList = '&' :: "sslrootcert=".toList := rfl
  have colon : ":".toList = [':'] := rfl
  have sign : "@".toList = ['@'] := rfl
  obtain ⟨flavor, polls⟩ := m
  cases flavor <;>
    simp only [connectionUri, body, login, location, place, carried, certificates, option,
      DatabaseFlavor.scheme, DatabaseFlavor.mode, Fields.getD_text?, String.toList_append,
      encode_toList, cert, key, authority, colon, sign, List.flatMap_cons, List.flatMap_nil,
      List.append_assoc, List.cons_append, List.nil_append, List.append_nil]

variable (credentials : Fields)

theorem count_login : (login credentials).count ':' = 1 := by
  have absent : ∀ name, (written credentials name).count ':' = 0 := fun name =>
    List.count_eq_zero.mpr (not_mem_written (by decide) credentials name)
  rw [login, List.count_append, List.count_cons_self, absent, absent]

theorem cut_login :
    cut ':' (login credentials) =
      (written credentials "Username", written credentials "Password") :=
  Text.cut_append (not_mem_written (by decide) credentials "Username") _

theorem cut_body (m : DatabaseManager) :
    cut '@' (m.body credentials) =
      (login credentials, location m.flavor credentials) := by
  refine Text.cut_append (fun h => ?_) _
  rcases List.mem_append.mp h with h | h
  · exact not_mem_written (by decide) credentials "Username" h
  · exact not_mem_written (by decide) credentials "Password" (List.mem_of_ne_of_mem (by decide) h)

/-- Whatever stands before them, the last pieces of a location are the certificates. -/
theorem certificates_suffix (before : List Char) :
    certificates credentials <:+ pieces '&' (before ++ location .postgres credentials) := by
  have absent : ∀ part ∈ certificates credentials, '&' ∉ part := by
    have free := fun of => not_mem_written (by decide : isSafe '&' = false) credentials of
    simp [certificates, option, free]
  rw [location, ← List.append_assoc]
  exact ⟨_, (Text.pieces_append_flatMap absent _).symm⟩

/-- An address can be taken apart, whatever is in the credentials that it is made of. Behind prefix
and scheme, the text before the first `@` has one colon, and its halves stand for the user and the
password; host and database follow as they are. The certificates of an address that carries them are
what its last three pieces between ampersands stand for. -/
theorem connectionUri_readable (m : DatabaseManager) :
    let uri := (m.connectionUri credentials).toList
    let text name := (credentials.textOf name).toList
    ∃ body login location user password,
      Text.after? (credentials.textOf "UriPrefix" ++ m.flavor.scheme) uri = some body ∧
      body = login ++ '@' :: location ∧ cut '@' body = (login, location) ∧
      login.count ':' = 1 ∧ cut ':' login = (user, password) ∧
      Text.Percent.decode user = .ok (text "Username") ∧
      Text.Percent.decode password = .ok (text "Password") ∧
      text "host" ++ '/' :: text "database_name" <+: location ∧
      (m.flavor = .postgres → ∃ cert key authority,
        let last := ["sslcert=".toList ++ cert, "sslkey=".toList ++ key,
          "sslrootcert=".toList ++ authority]
        last <:+ pieces '&' uri ∧ last <:+ pieces '&' body ∧
        Text.Percent.decode cert = .ok (text "ClientCert") ∧
        Text.Percent.decode key = .ok (text "ClientKey") ∧
        Text.Percent.decode authority = .ok (text "CaCert")) := by
  intro uri text
  have parts : uri = (credentials.textOf "UriPrefix" ++ m.flavor.scheme).toList ++
      m.body credentials := m.connectionUri_toList credentials
  have decoded : ∀ name, Text.Percent.decode (written credentials name) = .ok (text name) :=
    fun name => Text.Percent.decode_encodeChars _
  refine ⟨m.body credentials, login credentials, location m.flavor credentials, _, _, ?_, rfl,
    cut_body credentials m, count_login credentials, cut_login credentials, decoded _, decoded _,
    ?_, fun carries => ?_⟩
  · rw [parts, Text.after?_append]
  · exact ⟨m.flavor.mode.toList ++ (carried m.flavor credentials).flatMap ('&' :: ·),
      by simp [location, place, text]⟩
  · have ends : m.body credentials =
        (login credentials ++ ['@']) ++ location .postgres credentials := by
      rw [body, carries, List.append_assoc, List.singleton_append]
    refine ⟨_, _, _, ?_, ?_, decoded _, decoded _, decoded _⟩
    · rw [parts, ends, ← List.append_assoc]
      exact certificates_suffix credentials _
    · rw [ends]
      exact certificates_suffix credentials _

/-- A user, a password and a certificate full of separators, behind a prefix and in front of a host
with separators of its own; the other values are missing or are no texts. -/
theorem connectionUri_readable_mixed :
    let m : DatabaseManager := ⟨.postgres, 300⟩
    let credentials : Fields := .ofList [("UriPrefix", .str "jdbc:"), ("Username", .str "a:b@c"),
      ("Password", .str "50% &=é"), ("host", .str "h@1:2&"), ("database_name", .null),
      ("ClientCert", .str "x&y"), ("ClientKey", .bool true)]
    m.connectionUri credentials = "jdbc:postgres://a%3Ab%40c:50%25%20%26%3D%C3%A9@h@1:2&/" ++
        "?sslmode=require&sslcert=x%26y&sslkey=&sslrootcert=" ∧
      ∃ body login location user password cert key authority,
        Text.after? "jdbc:postgres://" (m.connectionUri credentials).toList = some body ∧
        cut '@' body = (login, location) ∧ login.count ':' = 1 ∧
        cut ':' login = (user, password) ∧
        Text.Percent.decode user = .ok "a:b@c".toList ∧
        Text.Percent.decode password = .ok "50% &=é".toList ∧
        ["sslcert=".toList ++ cert, "sslkey=".toList ++ key, "sslrootcert=".toList ++ authority] <:+
          pieces '&' body ∧
        Text.Percent.decode cert = .ok "x&y".toList ∧ Text.Percent.decode key = .ok [] ∧
        Text.Percent.decode authority = .ok [] := by
  intro m credentials
  obtain ⟨body, login, location, user, password, stripped, -, parted, colon, halves, name, secret,
    -, carried⟩ := connectionUri_readable credentials m
  obtain ⟨cert, key, authority, -, last, certified, keyed, trusted⟩ := carried rfl
  exact ⟨by decide, body, login, location, user, password, cert, key, authority, stripped, parted,
    colon, halves, name, secret, last, certified, keyed, trusted⟩

end DatabaseManager

end Brokerage
