import Brokerage.Account.Error
import Brokerage.Json.Reading
import Brokerage.Request.Basic

/-!
What every kind of credentials needs: the parameters of a bind, the reading of stored credentials,
and the credentials that an application is given.
-/

namespace Brokerage

/-- The parameters of a bind, or the error that says why they are none. -/
def bindParameters (request : BindRequest) : Except CredentialError Fields :=
  match request.parameters with
  | .ok fields => .ok fields
  | .error e => .error (.invalidParameters ("invalid parameters: " ++ e.reason))

/-- Texts by name. -/
abbrev StoredTexts := List (String × String)

namespace StoredTexts

/-- The members of a record under `names`, each a text and none repeated. What is stored under
another name may be anything that is spelled well. -/
def ofMembers? (names : List String) :
    List (List Json.Glyph × Json.Spelling) → Option StoredTexts
  | [] => some []
  | (glyphs, value) :: rest =>
    match Json.Glyph.text? glyphs, ofMembers? names rest with
    | some name, some found =>
      if names.contains name then
        match value with
        | .text glyphs =>
          if (found.lookup name).isSome then none
          else (Json.Glyph.text? glyphs).map fun s => (name, s) :: found
        | _ => none
      else some found
    | _, _ => none

/-- The items of a list, which stand under `names` in order; there may be fewer items. -/
def ofItems? : List String → List Json.Spelling → Option StoredTexts
  | _, [] => some []
  | [], _ :: _ => none
  | name :: names, .text glyphs :: rest =>
    match Json.Glyph.text? glyphs, ofItems? names rest with
    | some s, some found => some ((name, s) :: found)
    | _, _ => none
  | _ :: _, _ :: _ => none

/-- The texts that a JSON text stores under `names`, as a record or as a list. -/
def read? (names : List String) (text : String) : Option StoredTexts :=
  match Json.Spelling.ofChars? text.toList with
  | some (.object members) => ofMembers? names members
  | some (.array items) => ofItems? names items
  | _ => none

end StoredTexts

/-- Credentials joined with what is stored about the instance, which wins. -/
def joinCredentials (credentials : Fields) (row : InstanceRow) : Except StoreError Fields :=
  row.details.map fun details => credentials.merge details

end Brokerage
