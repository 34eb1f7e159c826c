import Brokerage.Account.DatabaseUser
import Brokerage.Account.Identity
import Brokerage.Proofs.Json.RoundTrip

/-! Stored credentials. A record of texts, written as JSON, is read back as those texts, whatever
characters are in them. -/

namespace Brokerage

open Json (Glyph Spelling)

namespace StoredTexts

def fields (texts : StoredTexts) : Fields := texts.map fun (name, text) => (name, .str text)

/-- Only a text literal means a text. -/
theorem glyphs_of_value? {depth : Nat} {spelling : Spelling} {s : String}
    (means : spelling.value? depth = some (.str s)) :
    ∃ glyphs, spelling = .text glyphs ∧ Glyph.text? glyphs = some s := by
  cases spelling with
  | text glyphs =>
    rw [Spelling.value?, Option.map_eq_some_iff] at means
    obtain ⟨_, read, ⟨⟩⟩ := means
    exact ⟨glyphs, rfl, read⟩
  | null | bool => cases means
  | number n =>
    rw [Spelling.value?, Option.map_eq_some_iff] at means
    obtain ⟨_, _, ⟨⟩⟩ := means
  | array | object =>
    cases depth with
    | zero => cases means
    | succ depth =>
      rw [Spelling.value?, Option.map_eq_some_iff] at means
      obtain ⟨_, _, ⟨⟩⟩ := means

/-- The first of several members has a name and means a value. -/
theorem parts_of_pairs? {depth : Nat} {members : List (List Glyph × Spelling)} {k : String}
    {v : Json} {rest : Fields} (pairs : Spelling.pairs? depth members = some ((k, v) :: rest)) :
    ∃ name value later, members = (name, value) :: later ∧ Glyph.text? name = some k ∧
      value.value? depth = some v ∧ Spelling.pairs? depth later = some rest := by
  cases members with
  | nil => cases pairs
  | cons member later =>
    obtain ⟨name, value⟩ := member
    rw [Spelling.pairs?] at pairs
    split at pairs
    · rename_i named means others
      cases pairs
      exact ⟨name, value, later, rfl, named, means, others⟩
    · cases pairs

/-- Members that mean texts, all of them asked for and none repeated, are read as those texts. -/
theorem ofMembers?_of_pairs? {depth : Nat} {names : List String} {texts : StoredTexts}
    {members : List (List Glyph × Spelling)}
    (pairs : Spelling.pairs? depth members = some texts.fields)
    (asked : ∀ p ∈ texts, p.1 ∈ names) (once : texts.Pairwise fun p q => p.1 ≠ q.1) :
    ofMembers? names members = some texts := by
  induction texts generalizing members with
  | nil =>
    cases members with
    | nil => rfl
    | cons member later =>
      rw [Spelling.pairs?] at pairs
      split at pairs <;> cases pairs
  | cons text rest ih =>
    obtain ⟨k, s⟩ := text
    obtain ⟨first, others⟩ := List.forall_mem_cons.mp asked
    obtain ⟨new, rest_once⟩ := List.pairwise_cons.mp once
    obtain ⟨name, value, later, rfl, named, means, laterPairs⟩ := parts_of_pairs? pairs
    obtain ⟨glyphs, rfl, spelled⟩ := glyphs_of_value? means
    -- The later members are read first, and a name that is among them is refused.
    have missing : rest.lookup k = none :=
      List.lookup_eq_none_iff.mpr fun p hp => bne_iff_ne.mpr (new p hp)
    have known : names.contains k = true := List.contains_iff_mem.mpr first
    simp only [ofMembers?, named, ih laterPairs others rest_once, known, missing, spelled]
    rfl

/-- What is written under the names that are asked for is read back. -/
theorem read?_text {names : List String} {texts : StoredTexts}
    (asked : ∀ p ∈ texts, p.1 ∈ names) (once : texts.Pairwise fun p q => p.1 ≠ q.1) :
    read? names texts.fields.text = some texts := by
  have spellable : ∀ p ∈ texts.fields, p.2.Spellable 0 := by
    intro p hp
    obtain ⟨text, -, rfl⟩ := List.mem_map.mp hp
    exact .str text.2
  obtain ⟨members, scanned, pairs⟩ :=
    Json.scanValue_obj (fun p hp => (spellable p hp).readsAs) [] (Nat.le_succ _)
  have same : (texts.fields.map fun p => (p.1, p.2.ordered)) = texts.fields := List.map_map
  rw [List.append_nil] at scanned
  rw [same] at pairs
  have spelled : Spelling.ofChars? texts.fields.text.toList = some (.object members) := by
    rw [Fields.text, Json.text, String.toList_ofList, Spelling.ofChars?, scanned]
    rfl
  rw [read?, spelled]
  exact ofMembers?_of_pairs? pairs asked once

end StoredTexts

namespace AccountInfo

/-- The texts of credentials, in the order in which they are stored. -/
def texts (i : AccountInfo) : StoredTexts :=
  [("Email", i.email), ("Name", i.name), ("PrivateKeyData", i.privateKeyData),
    ("ProjectId", i.projectId), ("UniqueId", i.uniqueId)]

theorem credentials_eq (i : AccountInfo) : i.credentials = i.texts.fields := rfl

/-- Credentials are read back from the text that stores them. -/
theorem read?_credentials (i : AccountInfo) : read? i.credentials.text = some i := by
  rw [credentials_eq, read?, StoredTexts.read?_text]
  · rfl
  · simp [texts]
  · simp [texts]

end AccountInfo

namespace DatabaseInfo

/-- The texts of credentials, in the order in which they are stored. -/
def texts (i : DatabaseInfo) : StoredTexts :=
  [("CaCert", i.caCert), ("ClientCert", i.clientCert), ("ClientKey", i.clientKey),
    ("Password", i.password), ("Sha1Fingerprint", i.fingerprint), ("Username", i.username)]

theorem credentials_eq (i : DatabaseInfo) : i.credentials = i.texts.fields := rfl

/-- Credentials are read back from the text that stores them. -/
theorem read?_credentials (i : DatabaseInfo) : read? i.credentials.text = some i := by
  rw [credentials_eq, read?, StoredTexts.read?_text]
  · rfl
  · simp [texts]
  · simp [texts]

end DatabaseInfo

end Brokerage
