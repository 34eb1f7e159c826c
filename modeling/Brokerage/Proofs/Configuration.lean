import Brokerage.Config
import Brokerage.Proofs.Text.Numeral

/-! Which configurations an environment stands for. Each variable means something by itself,
whatever the others hold; a configuration is what all four mean together, and without one the error
names the first variable that means nothing. -/

namespace Brokerage

open Text (isBlank isBlankChar trim trimChars)
open Text.Numeral (Denotes)

/-- The environment of variables that hold bytes. -/
def Environment.ofBytes (held : String → Option ByteArray) : Environment := fun name =>
  (held name).bind String.fromUTF8?

theorem Environment.ofBytes_eq_some_iff {held : String → Option ByteArray} {name text : String} :
    ofBytes held name = some text ↔ held name = some text.toUTF8 := by
  have decoded (bytes : ByteArray) : String.fromUTF8? bytes = some text ↔ bytes = text.toUTF8 := by
    unfold String.fromUTF8?
    split
    · rename_i valid
      constructor
      · rintro ⟨⟩
        rfl
      · rintro rfl
        rfl
    · rename_i invalid
      refine iff_of_false nofun ?_
      rintro rfl
      exact invalid text.isValidUTF8
  rw [ofBytes, Option.bind_eq_some_iff]
  simp only [decoded, exists_eq_right]

namespace Config

variable {env : Environment}

/-! ### The variables -/

/-- A variable asks for `n` connections. -/
def MeansConnections : Option String → Nat → Prop
  | none, n => n = 5
  | some text, n => Denotes text.toList n ∧ 1 ≤ n ∧ n ≤ 2 ^ 32 - 1

/-- A numeral of `n` stands in `text` with nothing but blanks around it. -/
def Padded (text : String) (n : Nat) : Prop :=
  ∃ before numeral after, text.toList = before ++ numeral ++ after ∧
    (∀ c ∈ before ++ after, isBlankChar c = true) ∧ Denotes numeral n

/-- A variable sets a limit on instances, or none. -/
def MeansLimit : Option String → Option Nat → Prop
  | none, limit => limit = none
  | some text, none => ∀ c ∈ text.toList, isBlankChar c = true
  | some text, some n => Padded text n ∧ n < 2 ^ 64

/-- A variable has claims abandoned after `n` seconds. -/
def MeansTimeout : Option String → Nat → Prop
  | none, n => n = 600
  | some text, n => Denotes text.toList n ∧ n < 2 ^ 64

/-- The variables of a configuration. -/
inductive Variable where
  | databaseUrl
  | maxConnections
  | instanceLimit
  | claimTimeout
  deriving DecidableEq, Repr

namespace Variable

def name : Variable → String
  | databaseUrl => "BROKER_DATABASE_URL"
  | maxConnections => "BROKER_DB_MAX_CONNECTIONS"
  | instanceLimit => "BROKER_INSTANCE_LIMIT"
  | claimTimeout => "BROKER_CLAIM_TIMEOUT_SECS"

/-- How many variables are read before it. -/
def place : Variable → Nat
  | databaseUrl => 0
  | maxConnections => 1
  | instanceLimit => 2
  | claimTimeout => 3

theorem eq_of_place {v w : Variable} (same : v.place = w.place) : v = w := by
  cases v <;> cases w <;> first | rfl | cases same

/-- The error that names a variable. -/
def rejection : Variable → ConfigError
  | databaseUrl => .missing databaseUrl.name
  | maxConnections => .invalid maxConnections.name "must be a positive integer"
  | instanceLimit => .invalid instanceLimit.name "must be a non-negative integer"
  | claimTimeout => .invalid claimTimeout.name "must be a non-negative integer"

end Variable

/-- A reading of a variable: it is what the variable means, and without a meaning its rejection. -/
structure Reads {α : Type} (result : Except ConfigError α) (v : Variable) (means : α → Prop) :
    Prop where
  ok_iff : ∀ a, result = .ok a ↔ means a
  of_error : ∀ e, result = .error e → e = v.rejection

theorem Reads.none_of_error {α : Type} {result : Except ConfigError α} {v : Variable}
    {means : α → Prop} {e : ConfigError} (reads : Reads result v means) (failed : result = .error e)
    (a : α) : ¬ means a := by
  intro meant
  cases failed.symm.trans ((reads.ok_iff a).mpr meant)

theorem reads_maxConnections (env : Environment) : Reads (maxConnectionsOf env) .maxConnections
    (MeansConnections (env "BROKER_DB_MAX_CONNECTIONS")) := by
  unfold maxConnectionsOf
  dsimp only
  cases env "BROKER_DB_MAX_CONNECTIONS" with
  | none =>
    have five : Text.Numeral.read? (Nat.pow 2 32) "5" = some 5 := by decide
    rw [Option.getD_none, five]
    exact ⟨fun n => by simp [MeansConnections, eq_comm], nofun⟩
  | some text =>
    rw [Option.getD_some]
    have read (n : Nat) : Text.Numeral.read? (Nat.pow 2 32) text = some n ↔
        Denotes text.toList n ∧ n < 2 ^ 32 := Text.Numeral.read?_eq_some_iff
    split
    · rename_i n found
      obtain ⟨written, small⟩ := (read _).mp found
      refine ⟨fun m => ⟨?_, ?_⟩, nofun⟩
      · rintro ⟨⟩
        exact ⟨written, by omega, by omega⟩
      · rintro ⟨written', -, fits⟩
        cases found.symm.trans ((read m).mpr ⟨written', by omega⟩)
        rfl
    · rename_i other
      refine ⟨fun m => iff_of_false nofun ?_, by rintro _ ⟨⟩; rfl⟩
      rintro ⟨written, positive, fits⟩
      obtain ⟨n, rfl⟩ := Nat.exists_eq_add_of_le' positive
      exact other n ((read _).mpr ⟨written, by omega⟩)

theorem padded_iff {text : String} {n : Nat} :
    Padded text n ↔ Denotes (trim text).toList n := by
  rw [trim, String.toList_ofList]
  constructor
  · rintro ⟨before, numeral, after, padded, blank, written⟩
    rw [padded, Text.trimChars_of_padded blank written.filled fun _ => written.solid]
    exact written
  · intro written
    obtain ⟨before, after, padded, blank⟩ := Text.exists_trimChars text.toList
    exact ⟨before, _, after, padded, blank, written⟩

theorem not_padded_of_blank {text : String} {n : Nat} (blank : isBlank text = true) :
    ¬ Padded text n := by
  rintro ⟨before, numeral, after, padded, -, written⟩
  obtain ⟨c, h⟩ := List.exists_mem_of_ne_nil _ written.filled
  have held : c ∈ text.toList := by simp [padded, h]
  have isBlank := List.all_eq_true.mp blank c held
  rw [written.solid h] at isBlank
  cases isBlank

theorem reads_instanceLimit (env : Environment) : Reads (instanceLimitOf env) .instanceLimit
    (MeansLimit (env "BROKER_INSTANCE_LIMIT")) := by
  unfold instanceLimitOf
  dsimp only
  cases env "BROKER_INSTANCE_LIMIT" with
  | none => exact ⟨fun limit => by simp [MeansLimit, eq_comm], nofun⟩
  | some text =>
    have read (n : Nat) : Text.Numeral.read? (Nat.pow 2 64) (trim text) = some n ↔
        Padded text n ∧ n < 2 ^ 64 := by
      rw [padded_iff]
      exact Text.Numeral.read?_eq_some_iff
    dsimp only
    split
    · rename_i blank
      refine ⟨fun limit => ?_, nofun⟩
      cases limit with
      | none => exact iff_of_true rfl (List.all_eq_true.mp blank)
      | some n => exact iff_of_false nofun fun means => not_padded_of_blank blank means.1
    · rename_i filled
      have none : ¬ MeansLimit (some text) none := fun blank =>
        filled (List.all_eq_true.mpr blank)
      split
      · rename_i n found
        refine ⟨fun limit => ?_, nofun⟩
        cases limit with
        | none => exact iff_of_false nofun none
        | some m =>
          rw [MeansLimit, ← read, found]
          simp
      · rename_i refused
        refine ⟨fun limit => iff_of_false nofun ?_, by rintro _ ⟨⟩; rfl⟩
        cases limit with
        | none => exact none
        | some m =>
          rw [MeansLimit, ← read, refused]
          exact nofun

theorem reads_claimTimeout (env : Environment) : Reads (claimTimeoutOf env) .claimTimeout
    (MeansTimeout (env "BROKER_CLAIM_TIMEOUT_SECS")) := by
  unfold claimTimeoutOf
  dsimp only
  cases env "BROKER_CLAIM_TIMEOUT_SECS" with
  | none =>
    have tenMinutes : Text.Numeral.read? (Nat.pow 2 64) "600" = some 600 := by decide
    rw [Option.getD_none, tenMinutes]
    exact ⟨fun n => by simp [MeansTimeout, eq_comm], nofun⟩
  | some text =>
    rw [Option.getD_some]
    have read (n : Nat) : Text.Numeral.read? (Nat.pow 2 64) text = some n ↔
        Denotes text.toList n ∧ n < 2 ^ 64 := Text.Numeral.read?_eq_some_iff
    split
    · rename_i n found
      refine ⟨fun m => ?_, nofun⟩
      rw [MeansTimeout, ← read, found]
      simp
    · rename_i refused
      refine ⟨fun m => iff_of_false nofun ?_, by rintro _ ⟨⟩; rfl⟩
      rw [MeansTimeout, ← read, refused]
      exact nofun

/-! ### All of them -/

/-- The configuration that the variables mean. -/
structure Describes (env : Environment) (c : Config) : Prop where
  databaseUrl : env "BROKER_DATABASE_URL" = some c.databaseUrl
  maxConnections : MeansConnections (env "BROKER_DB_MAX_CONNECTIONS") c.maxConnections
  instanceLimit : MeansLimit (env "BROKER_INSTANCE_LIMIT") c.instanceLimit
  claimTimeout : MeansTimeout (env "BROKER_CLAIM_TIMEOUT_SECS") c.claimTimeout

/-- A variable means nothing. -/
def Offends (env : Environment) : Variable → Prop
  | .databaseUrl => env "BROKER_DATABASE_URL" = none
  | .maxConnections => ∀ n, ¬ MeansConnections (env "BROKER_DB_MAX_CONNECTIONS") n
  | .instanceLimit => ∀ limit, ¬ MeansLimit (env "BROKER_INSTANCE_LIMIT") limit
  | .claimTimeout => ∀ n, ¬ MeansTimeout (env "BROKER_CLAIM_TIMEOUT_SECS") n

/-- A variable means nothing, and all that are read before it mean something. -/
def FirstOffends (env : Environment) (v : Variable) : Prop :=
  Offends env v ∧ ∀ w, w.place < v.place → ¬ Offends env w

theorem FirstOffends.unique {v w : Variable} (hv : FirstOffends env v) (hw : FirstOffends env w) :
    v = w := by
  rcases Nat.lt_trichotomy v.place w.place with earlier | same | later
  · exact absurd hv.1 (hw.2 v earlier)
  · exact Variable.eq_of_place same
  · exact absurd hw.1 (hv.2 w later)

theorem Describes.not_offends {c : Config} (h : Describes env c) (v : Variable) :
    ¬ Offends env v := by
  cases v with
  | databaseUrl =>
    intro unset
    cases unset.symm.trans h.databaseUrl
  | maxConnections => exact fun offends => offends _ h.maxConnections
  | instanceLimit => exact fun offends => offends _ h.instanceLimit
  | claimTimeout => exact fun offends => offends _ h.claimTimeout

theorem Describes.ofEnvironment {c : Config} (h : Describes env c) :
    ofEnvironment env = .ok c := by
  rw [Config.ofEnvironment, h.databaseUrl,
    ((reads_maxConnections env).ok_iff _).mpr h.maxConnections,
    ((reads_instanceLimit env).ok_iff _).mpr h.instanceLimit,
    ((reads_claimTimeout env).ok_iff _).mpr h.claimTimeout]
  rfl

/-- The variables are read one after another, up to the first that means nothing. -/
theorem ofEnvironment_cases (env : Environment) :
    (∃ c, ofEnvironment env = .ok c ∧ Describes env c) ∨
      ∃ v, FirstOffends env v ∧ ofEnvironment env = .error v.rejection := by
  have connections := reads_maxConnections env
  have limit := reads_instanceLimit env
  have timeout := reads_claimTimeout env
  cases url : env "BROKER_DATABASE_URL" with
  | none => exact .inr ⟨.databaseUrl, ⟨url, nofun⟩, by rw [ofEnvironment, url]; rfl⟩
  | some databaseUrl =>
    have set : ¬ Offends env .databaseUrl := fun unset => nomatch url.symm.trans unset
    cases connected : maxConnectionsOf env with
    | error e =>
      refine .inr ⟨.maxConnections, ⟨connections.none_of_error connected, fun w earlier => ?_⟩, ?_⟩
      · cases w with
        | databaseUrl => exact set
        | _ => simp [Variable.place] at earlier
      · rw [ofEnvironment, url, connected, connections.of_error e connected]
        rfl
    | ok maxConnections =>
      have meant := (connections.ok_iff _).mp connected
      cases limited : instanceLimitOf env with
      | error e =>
        refine .inr ⟨.instanceLimit, ⟨limit.none_of_error limited, fun w earlier => ?_⟩, ?_⟩
        · cases w with
          | databaseUrl => exact set
          | maxConnections => exact fun offends => offends _ meant
          | _ => simp [Variable.place] at earlier
        · rw [ofEnvironment, url, connected, limited, limit.of_error e limited]
          rfl
      | ok instanceLimit =>
        have meant' := (limit.ok_iff _).mp limited
        cases timed : claimTimeoutOf env with
        | error e =>
          refine .inr ⟨.claimTimeout, ⟨timeout.none_of_error timed, fun w earlier => ?_⟩, ?_⟩
          · cases w with
            | databaseUrl => exact set
            | maxConnections => exact fun offends => offends _ meant
            | instanceLimit => exact fun offends => offends _ meant'
            | claimTimeout => simp at earlier
          · rw [ofEnvironment, url, connected, limited, timed, timeout.of_error e timed]
            rfl
        | ok claimTimeout =>
          have described :
              Describes env ⟨databaseUrl, maxConnections, instanceLimit, claimTimeout⟩ :=
            ⟨url, meant, meant', (timeout.ok_iff _).mp timed⟩
          exact .inl ⟨_, described.ofEnvironment, described⟩

/-- Configurations are read exactly where every variable means something, and mean what they mean;
otherwise the first that does not is named. Bytes that are no text leave their variable unset. -/
theorem read_or_rejected (env : Environment) :
    (∀ c, ofEnvironment env = .ok c ↔ Describes env c) ∧
    ((∃ c, ofEnvironment env = .ok c) ↔ ∀ v, ¬ Offends env v) ∧
    (∀ e, ofEnvironment env = .error e ↔ ∃ v, FirstOffends env v ∧ e = v.rejection) ∧
    ∀ (held : String → Option ByteArray) (name text : String),
      Environment.ofBytes held name = some text ↔ held name = some text.toUTF8 := by
  refine ⟨fun c => ⟨fun read => ?_, Describes.ofEnvironment⟩, ?_, fun e => ?_,
    fun _ _ _ => Environment.ofBytes_eq_some_iff⟩
  all_goals rcases ofEnvironment_cases env with ⟨c', read', described⟩ | ⟨v, first, rejected⟩
  · cases read.symm.trans read'
    exact described
  · cases read.symm.trans rejected
  · exact iff_of_true ⟨c', read'⟩ described.not_offends
  · refine iff_of_false ?_ fun none => none v first.1
    rintro ⟨c, read⟩
    cases read.symm.trans rejected
  · refine iff_of_false (fun rejected => by cases read'.symm.trans rejected) ?_
    rintro ⟨v, first, -⟩
    exact described.not_offends v first.1
  · rw [rejected, Except.error.injEq]
    constructor
    · rintro rfl
      exact ⟨v, first, rfl⟩
    · rintro ⟨w, first', rfl⟩
      rw [first.unique first']

/-- A limit may stand between blanks; with one more, it is above what fits. -/
example :
    let env (limit : String) : Environment := fun name =>
      if name = "BROKER_INSTANCE_LIMIT" then some limit else some "+07"
    ofEnvironment (env " +018446744073709551615\t") =
        .ok ⟨"+07", 7, some 18446744073709551615, 7⟩ ∧
      ofEnvironment (env " +18446744073709551616 ") =
        .error (.invalid "BROKER_INSTANCE_LIMIT" "must be a non-negative integer") := ⟨rfl, rfl⟩

end Config

end Brokerage
