import BatchIngestion.QueryText
import BatchIngestion.SparkSession

/-!
# Credentials in connection texts

The MongoDB URI and the JAAS line are built by f-strings, which escape neither the user name nor
the password. The texts are read back here by the grammar of URIs and by the quoting rules of JAAS.
-/

namespace BatchIngestion

open Python Library

/-! ### What is built -/

/-- The text of `credentials.get(key)` in an f-string. -/
def Secret.formatted (credentials : Secret) (key : Text) : Text :=
  (credentials.text? key).getD "None"

/-- A key that is there goes into the text with its value. -/
theorem Secret.formatted_of_text? {credentials : Secret} {key value : Text}
    (h : credentials.text? key = some value) : credentials.formatted key = value := by
  rw [formatted, h, Option.getD_some]

/-- The MongoDB URI for a user name and a password. -/
def mongoUri (cfg : TableSourceConfig) (username password : Text) : Except PyExc Text := do
  let port ← intStr cfg.port
  return ("mongodb://" : Text) ++ (username ++ ':' :: (password ++ '@' :: (cfg.host ++ ':' ::
    (port ++ '/' :: (cfg.database ++ '?' :: ("authSource=admin" : Text))))))

/-- The URI that `_max_mongodb` connects to. -/
def InitOperator.maxMongodbUri (sourceConfig : TableSourceConfig) (credentials : Secret) :
    Except PyExc Text :=
  mongoUri sourceConfig (credentials.formatted "username") (credentials.formatted "password")

/-- `SourceMongoDBAdapter._build_connection_options`. -/
def SourceMongoDBAdapter.buildConnectionOptions (cfg : TableSourceConfig) (credentials : Secret)
    (checkpointFrom : Option CheckpointValue) : Except PyExc (Dict Text Text) := do
  let connectionString ←
    mongoUri cfg (credentials.formatted "username") (credentials.formatted "password")
  let pipeline ← aggregationPipeline cfg checkpointFrom
  return [
    ("spark.mongodb.read.connection.uri".toList, connectionString),
    ("spark.mongodb.read.database".toList, cfg.database),
    ("spark.mongodb.read.collection".toList, cfg.table)] ++
    pipeline.elim [] fun pipeline =>
      [("spark.mongodb.read.aggregation.pipeline".toList, pipeline.text)]

/-- The JAAS line for a user name and a password. -/
def jaasLine (saslUsername saslPassword : Text) : Text :=
  ("org.apache.kafka.common.security.plain.PlainLoginModule required username=\"" : Text) ++
    (saslUsername ++ '"' :: ((" password=\"" : Text) ++ (saslPassword ++ '"' :: (";" : Text))))

/-- The options that `SourceKafkaAdapter.read` sets for a login. -/
def SourceKafkaAdapter.saslOptions (credentials : Secret) : Dict Text Text :=
  match truthy (credentials.text? "sasl_username"), truthy (credentials.text? "sasl_password") with
  | some saslUsername, some saslPassword => [
      ("kafka.security.protocol", "SASL_PLAINTEXT"),
      ("kafka.sasl.mechanism", "PLAIN"),
      ("kafka.sasl.jaas.config", jaasLine saslUsername saslPassword)]
  | _, _ => []

/-! ### Percent-encoded octets -/

/-- A percent-encoded octet. -/
def percentOctet : Text → Option (ℕ × Text)
  | '%' :: a :: b :: t => do
    let a ← hexDigit a
    let b ← hexDigit b
    some (a * 16 + b, t)
  | _ => none

/-- The octets that continue a character of UTF-8. -/
def continuationOctets : ℕ → ℕ → Text → Option (ℕ × Text)
  | 0, value, t => some (value, t)
  | count + 1, value, t => do
    let (octet, t) ← percentOctet t
    if 0x80 ≤ octet ∧ octet < 0xc0 then continuationOctets count (value * 64 + (octet - 0x80)) t
    else none

/-- What the first octet of a character says: how many octets continue it, its own bits, and the
least character of this length. -/
def leadOctet (octet : ℕ) : Option (ℕ × ℕ × ℕ) :=
  if octet < 0x80 then some (0, octet, 0)
  else if 0xc0 ≤ octet ∧ octet < 0xe0 then some (1, octet - 0xc0, 0x80)
  else if 0xe0 ≤ octet ∧ octet < 0xf0 then some (2, octet - 0xe0, 0x800)
  else if 0xf0 ≤ octet ∧ octet < 0xf8 then some (3, octet - 0xf0, 0x10000)
  else none

/-- A percent-encoded character. -/
def percentEscape (t : Text) : Option (Text × Text) := do
  let (octet, t) ← percentOctet t
  let (count, bits, least) ← leadOctet octet
  let (value, t) ← continuationOctets count bits t
  if least ≤ value ∧ value.isValidChar then some ([Char.ofNat value], t) else none

/-- An octet takes up three characters. -/
theorem percentOctet_spec {t rest : Text} {octet : ℕ} (h : percentOctet t = some (octet, rest)) :
    ∃ taken, t = taken ++ rest ∧ taken.length = 3 := by
  unfold percentOctet at h
  split at h
  · rename_i a b t'
    obtain ⟨_, -, h⟩ := Option.bind_eq_some_iff.mp h
    obtain ⟨_, -, h⟩ := Option.bind_eq_some_iff.mp h
    obtain ⟨-, rfl⟩ := Prod.mk.inj (Option.some.inj h)
    exact ⟨['%', a, b], rfl, rfl⟩
  · cases h

/-- Continuing octets are taken up. -/
theorem continuationOctets_spec {count value value' : ℕ} {t rest : Text}
    (h : continuationOctets count value t = some (value', rest)) : ∃ taken, t = taken ++ rest := by
  induction count generalizing value t with
  | zero =>
    obtain ⟨-, rfl⟩ := Prod.mk.inj (Option.some.inj h)
    exact ⟨[], rfl⟩
  | succ count ih =>
    obtain ⟨⟨octet, t'⟩, hoctet, hcontinue⟩ := Option.bind_eq_some_iff.mp h
    obtain ⟨taken, rfl, -⟩ := percentOctet_spec hoctet
    dsimp only at hcontinue
    split at hcontinue
    · obtain ⟨taken', rfl⟩ := ih hcontinue
      exact ⟨taken ++ taken', (List.append_assoc _ _ _).symm⟩
    · cases hcontinue

/-- A percent-encoded character takes up more than one character. -/
theorem percentEscape_spec {t s rest : Text} (h : percentEscape t = some (s, rest)) :
    ∃ taken, t = taken ++ rest ∧ s.length < taken.length := by
  obtain ⟨⟨octet, t'⟩, hoctet, hlead⟩ := Option.bind_eq_some_iff.mp h
  obtain ⟨⟨count, bits, least⟩, -, hrest⟩ := Option.bind_eq_some_iff.mp hlead
  obtain ⟨⟨value, t''⟩, hcontinue, hchar⟩ := Option.bind_eq_some_iff.mp hrest
  obtain ⟨taken, rfl, hlength⟩ := percentOctet_spec hoctet
  obtain ⟨taken', rfl⟩ := continuationOctets_spec hcontinue
  dsimp only at hchar
  split at hchar
  · obtain ⟨rfl, rfl⟩ := Prod.mk.inj (Option.some.inj hchar)
    refine ⟨taken ++ taken', (List.append_assoc _ _ _).symm, ?_⟩
    simp only [List.length_append, List.length_singleton]
    omega
  · cases hchar

/-- Only a percent sign starts a percent-encoded character. -/
theorem percentEscape_cons {c : Char} (hc : c ≠ '%') (t : Text) :
    percentEscape (c :: t) = none := by
  have hoctet : percentOctet (c :: t) = none := by
    unfold percentOctet
    split
    · rename_i heq
      exact absurd (List.cons.inj heq).1 hc
    · rfl
  rw [percentEscape, hoctet]
  rfl

/-! ### The components of a URI -/

/-- The characters that stand for themselves in every component. -/
def isUriPlain (c : Char) : Bool :=
  c.isAlphanum || ("-._~!$&'()*+,;=" : Text).contains c

/-- A text of characters that stand for themselves, where some others do too. -/
def UriPlain (others s : Text) : Prop := ∀ c ∈ s, isUriPlain c = true ∨ c ∈ others

/-- Whether characters stand for themselves can be checked. -/
theorem uriPlain_iff_all {others s : Text} :
    UriPlain others s ↔ s.all (fun c => isUriPlain c || others.contains c) = true := by
  simp only [UriPlain, List.all_eq_true, Bool.or_eq_true, List.contains_iff_mem]

/-- A component of a URI, up to the delimiter that ends it. -/
def percentEncoded (close : Char) (others : Text) : LiteralSyntax Char where
  quote := close
  plain c := c ≠ '%' && (isUriPlain c || others.contains c)
  escape := percentEscape
  escape_spec h := by
    obtain ⟨taken, rfl, hlength⟩ := percentEscape_spec h
    exact ⟨taken, List.ne_nil_of_length_pos (Nat.zero_lt_of_lt hlength), rfl, .inr hlength⟩

/-- A component denotes itself if all its characters stand for themselves. -/
theorem read_percentEncoded_iff (close : Char) (others : Text)
    (hclose : close ≠ '%' ∧ isUriPlain close = false ∧ close ∉ others) (hothers : '%' ∉ others)
    (s rest : Text) :
    (percentEncoded close others).bodyReader.read (s ++ close :: rest) = some (s, rest) ↔
      UriPlain others s := by
  obtain ⟨hpercent, hplain, hmem⟩ := hclose
  refine (LiteralSyntax.readBody_eq_self_iff (σ := percentEncoded close others)
    (percentEscape_cons hpercent rest)).trans ?_
  rw [LiteralSyntax.verbatim_iff_forall_plain (σ := percentEncoded close others) percentEscape_spec
    fun c t hc => percentEscape_cons (of_decide_eq_true (Bool.and_eq_true_iff.mp hc).1) t]
  refine forall₂_congr fun c _ => ?_
  simp only [percentEncoded, Bool.and_eq_true, decide_eq_true_eq, Bool.or_eq_true,
    List.contains_iff_mem]
  constructor
  · rintro ⟨-, -, h⟩
    exact h
  · intro h
    refine ⟨fun heq => ?_, fun heq => ?_, h⟩
    · subst heq
      rcases h with h | h
      · exact Bool.false_ne_true (hplain.symm.trans h)
      · exact hmem h
    · subst heq
      rcases h with h | h
      · exact absurd h (by decide)
      · exact hothers h

/-- The addresses in brackets. -/
def bracketedAddress : LiteralSyntax Char :=
  LiteralSyntax.unescaped ']' fun c => isUriPlain c || c = ':'

/-- An address in brackets, after the opening one, and the colon after it. -/
def readAddress (t : Text) : Option (Text × Text) :=
  match bracketedAddress.readBody t with
  | some (address, ':' :: rest) => some ('[' :: (address ++ [']']), rest)
  | _ => none

/-- An address is read back with its brackets. -/
theorem readAddress_eq_some_iff {t s rest : Text} : readAddress t = some (s, rest) ↔
    ∃ address, s = '[' :: (address ++ [']']) ∧
      bracketedAddress.readBody t = some (address, ':' :: rest) := by
  unfold readAddress
  split
  · rename_i address rest' hbody
    simp only [hbody, Option.some.injEq, Prod.mk.injEq, List.cons.injEq, true_and]
    constructor
    · rintro ⟨rfl, rfl⟩
      exact ⟨address, rfl, rfl, rfl⟩
    · rintro ⟨_, rfl, rfl, rfl⟩
      exact ⟨rfl, rfl⟩
  · rename_i hnot
    exact iff_of_false (fun h => by cases h) fun ⟨address, _, hbody⟩ => hnot address rest hbody

/-- A name, or an address in brackets, before a colon. -/
def readHost : Text → Option (Text × Text)
  | [] => none
  | c :: t => if c = '[' then readAddress t else (percentEncoded ':' []).readBody (c :: t)

/-- A host takes up more characters than it denotes. -/
theorem readHost_spec {t s rest : Text} (h : readHost t = some (s, rest)) :
    ∃ taken, t = taken ++ rest ∧ s.length < taken.length := by
  cases t with
  | nil => cases h
  | cons c t =>
    rw [readHost] at h
    split at h
    · obtain ⟨address, rfl, hbody⟩ := readAddress_eq_some_iff.mp h
      obtain ⟨taken, rfl, hlength⟩ := LiteralSyntax.readBody_spec hbody
      refine ⟨c :: (taken ++ [':']), by simp, ?_⟩
      simp only [List.length_cons, List.length_append, List.length_nil]
      omega
    · exact LiteralSyntax.readBody_spec h

/-- The host of a URI. -/
def hostReader : LiteralReader Char where
  read := readHost
  read_spec := readHost_spec

/-- The reader of a host, by its first character. -/
theorem hostReader_read_cons (c : Char) (t : Text) : hostReader.read (c :: t) =
    if c = '[' then readAddress t else (percentEncoded ':' []).bodyReader.read (c :: t) := rfl

/-- The hosts of a URI. -/
def IsHost (host : Text) : Prop :=
  UriPlain [] host ∨ ∃ address, host = '[' :: (address ++ [']']) ∧ UriPlain [':'] address

/-- A host denotes itself if it is one. -/
theorem read_host_iff (host rest : Text) :
    hostReader.read (host ++ ':' :: rest) = some (host, rest) ↔ IsHost host := by
  have hname := read_percentEncoded_iff ':' [] (by decide) (by decide)
  have hempty : UriPlain [] [] := fun c hc => absurd hc List.not_mem_nil
  cases host with
  | nil => exact (hname [] rest).trans (iff_of_true hempty (.inl hempty))
  | cons c host =>
    by_cases hc : c = '['
    · subst hc
      have hnot : ¬UriPlain [] ('[' :: host) := fun h => by
        rcases h '[' List.mem_cons_self with h | h
        · exact absurd h (by decide)
        · cases h
      have haddress (address : Text) :
          bracketedAddress.readBody (address ++ ']' :: ':' :: rest) =
            some (address, ':' :: rest) ↔ UriPlain [':'] address := by
        refine (LiteralSyntax.read_unescaped_iff ']' _ (by decide) address _).trans ?_
        simp [UriPlain]
      rw [IsHost, or_iff_right hnot, List.cons_append, hostReader_read_cons, if_pos rfl,
        readAddress_eq_some_iff]
      refine exists_congr fun address => and_congr_right fun heq => ?_
      obtain rfl := (List.cons.inj heq).2
      rw [← haddress, List.append_assoc, List.singleton_append]
    · rw [List.cons_append, hostReader_read_cons, if_neg hc, ← List.cons_append, hname]
      refine (or_iff_left ?_).symm
      rintro ⟨address, heq, -⟩
      exact hc (List.cons.inj heq).1

/-- The decimal text of an integer consists of digits if it is not negative. -/
theorem isDigit_intText_iff (n : ℤ) : (∀ c ∈ intText n, c.isDigit = true) ↔ 0 ≤ n := by
  unfold intText
  split
  · rename_i hneg
    refine iff_of_false (fun h => ?_) (by omega)
    exact absurd (h '-' List.mem_cons_self) (by decide)
  · refine iff_of_true (fun c hc => ?_) (by omega)
    obtain ⟨d, hd, rfl⟩ := exists_digitChar_of_mem hc
    clear hc
    revert d
    decide

/-! ### Reading a URI -/

/-- A MongoDB URI, taken apart. -/
structure MongoUri where
  /-- The user name. -/
  username : Text
  /-- The password. -/
  password : Text
  /-- The host. -/
  host : Text
  /-- The port. -/
  port : Text
  /-- The database. -/
  database : Text
  /-- The options. -/
  options : Text
  deriving DecidableEq

/-- The components of a MongoDB URI before its options. -/
def mongoUriSlots : List (Slot Char) := [
  { lead := "mongodb://", reader := (percentEncoded ':' []).bodyReader },
  { lead := [], reader := (percentEncoded '@' [':']).bodyReader },
  { lead := [], reader := hostReader },
  { lead := [], reader := (LiteralSyntax.unescaped '/' Char.isDigit).bodyReader },
  { lead := [], reader := (percentEncoded '?' [':', '@']).bodyReader }]

/-- Read a MongoDB URI by the grammar of URIs, with percent-encoded characters decoded. -/
def parseMongoUri (text : Text) : Option MongoUri :=
  match readSlots mongoUriSlots text with
  | some ([username, password, host, port, database], options) =>
    some { username, password, host, port, database, options }
  | _ => none

/-- The components that a MongoDB URI is built from. -/
def mongoUriParts (cfg : TableSourceConfig) (username password : Text) : List (FilledSlot Char) :=
  (mongoUriSlots.zip [(username, ':'), (password, '@'), (cfg.host, ':'), (intText cfg.port, '/'),
    (cfg.database, '?')]).map fun (slot, value, close) => { slot with value, close }

/-- A URI that is built is made of its parts. -/
theorem mongoUri_eq_ok {cfg : TableSourceConfig} {username password text : Text}
    (h : mongoUri cfg username password = .ok text) :
    text = joinParts (mongoUriParts cfg username password) "authSource=admin" := by
  obtain ⟨port, hport, htext⟩ := bind_eq_ok_iff.mp h
  obtain rfl := Except.ok.inj htext
  unfold intStr at hport
  split at hport
  · obtain rfl := Except.ok.inj hport
    rfl
  · cases hport

/-- A URI holds a user name and a password, with a host, a port and a database. -/
def MongoUriAdmits (cfg : TableSourceConfig) (username password : Text) : Prop :=
  UriPlain [] username ∧ UriPlain [':'] password ∧ IsHost cfg.host ∧ 0 ≤ cfg.port ∧
    UriPlain [':', '@'] cfg.database

/-- The parts of a URI are read back one by one. -/
theorem readSlots_mongoUriParts_iff (cfg : TableSourceConfig) (username password : Text) :
    readSlots mongoUriSlots
        (joinParts (mongoUriParts cfg username password) "authSource=admin") =
      some ([username, password, cfg.host, intText cfg.port, cfg.database],
        ("authSource=admin" : Text)) ↔
    MongoUriAdmits cfg username password := by
  have huser := read_percentEncoded_iff ':' [] (by decide) (by decide) username
  have hpassword := read_percentEncoded_iff '@' [':'] (by decide) (by decide) password
  have hport (rest : Text) := (LiteralSyntax.read_unescaped_iff '/' Char.isDigit (by decide)
    (intText cfg.port) rest).trans (isDigit_intText_iff _)
  have hdatabase := read_percentEncoded_iff '?' [':', '@'] (by decide) (by decide) cfg.database
  -- What a part denotes does not depend on the text after it.
  have hparts : ∀ part ∈ mongoUriParts cfg username password, ∀ rest,
      part.reader.read (part.value ++ part.close :: rest) = some (part.value, rest) ↔
        part.reader.read (part.value ++ [part.close]) = some (part.value, []) := by
    simp only [mongoUriParts, mongoUriSlots, List.zip_cons_cons, List.map_cons,
      List.forall_mem_cons]
    exact ⟨fun rest => (huser rest).trans (huser []).symm,
      fun rest => (hpassword rest).trans (hpassword []).symm,
      fun rest => (read_host_iff _ rest).trans (read_host_iff _ []).symm,
      fun rest => (hport rest).trans (hport []).symm,
      fun rest => (hdatabase rest).trans (hdatabase []).symm,
      fun part hpart => absurd hpart List.not_mem_nil⟩
  refine (readSlots_joinParts_iff hparts _).trans ?_
  simp only [mongoUriParts, mongoUriSlots, List.zip_cons_cons, List.map_cons, List.forall_mem_cons]
  exact and_congr (huser []) (and_congr (hpassword []) (and_congr (read_host_iff _ [])
    (and_congr (hport []) ((and_iff_left fun part hpart => absurd hpart List.not_mem_nil).trans
      (hdatabase [])))))

/-! ### Reading a JAAS line -/

/-- Up to `count` octal digits, after a value. -/
def takeOctal : ℕ → ℕ → Text → ℕ × Text
  | count + 1, value, c :: t =>
    if isOctal c then takeOctal count (value * 8 + (c.toNat - 48)) t else (value, c :: t)
  | _, value, t => (value, t)

/-- The escapes of a single character that do not stand for this character. -/
def jaasEscapes : Dict Char Char := [
  ('a', '\x07'), ('b', '\x08'), ('f', '\x0c'), ('n', '\n'), ('r', '\r'), ('t', '\t'), ('v', '\x0b')]

/-- An escape sequence of JAAS: up to three octal digits, or a single character. -/
def jaasEscape : Text → Option (Text × Text)
  | '\\' :: c :: t =>
    if isOctal c then
      let (value, rest) := takeOctal (if c.toNat ≤ 51 then 2 else 1) (c.toNat - 48) t
      some ([Char.ofNat value], rest)
    else some ([(Dict.get? jaasEscapes c).getD c], t)
  | _ => none

/-- Octal digits are taken up. -/
theorem takeOctal_spec (count value : ℕ) (t : Text) :
    ∃ taken, t = taken ++ (takeOctal count value t).2 := by
  induction count generalizing value t with
  | zero => exact ⟨[], by cases t <;> rfl⟩
  | succ count ih =>
    cases t with
    | nil => exact ⟨[], rfl⟩
    | cons c t =>
      rw [takeOctal]
      split
      · obtain ⟨taken, htaken⟩ := ih (value * 8 + (c.toNat - 48)) t
        exact ⟨c :: taken, by rw [List.cons_append, ← htaken]⟩
      · exact ⟨[], rfl⟩

/-- An escape sequence of JAAS denotes one character and takes up more. -/
theorem jaasEscape_spec {t s rest : Text} (h : jaasEscape t = some (s, rest)) :
    ∃ taken, t = taken ++ rest ∧ s.length < taken.length := by
  unfold jaasEscape at h
  split at h
  · rename_i c t'
    split at h
    · obtain ⟨rfl, rfl⟩ := Prod.mk.inj (Option.some.inj h)
      obtain ⟨taken, htaken⟩ :=
        takeOctal_spec (if c.toNat ≤ 51 then 2 else 1) (c.toNat - 48) t'
      exact ⟨'\\' :: c :: taken, by rw [List.cons_append, List.cons_append, ← htaken], by simp⟩
    · obtain ⟨rfl, rfl⟩ := Prod.mk.inj (Option.some.inj h)
      exact ⟨['\\', c], rfl, by simp⟩
  · cases h

/-- The strings of JAAS. A string ends at the end of its line. -/
def jaasStrings : LiteralSyntax Char where
  quote := '"'
  plain c := c ≠ '\\' ∧ c ≠ '\n' ∧ c ≠ '\r'
  escape := jaasEscape
  escape_spec h := by
    obtain ⟨taken, rfl, hlength⟩ := jaasEscape_spec h
    exact ⟨taken, List.ne_nil_of_length_pos (Nat.zero_lt_of_lt hlength), rfl, .inr hlength⟩

/-- The texts that denote themselves as JAAS strings. -/
def JaasPlain (s : Text) : Prop := ∀ c ∈ s, c ≠ '"' ∧ c ≠ '\\' ∧ c ≠ '\n' ∧ c ≠ '\r'

/-- Whether a text denotes itself can be checked. -/
theorem jaasPlain_iff_all {s : Text} : JaasPlain s ↔
    s.all (fun c => c ≠ '"' ∧ c ≠ '\\' ∧ c ≠ '\n' ∧ c ≠ '\r') = true := by
  simp only [JaasPlain, List.all_eq_true, decide_eq_true_eq]

/-- A JAAS string denotes itself if it has no quote, no backslash and no line end. -/
theorem read_jaasStrings_iff (s rest : Text) :
    jaasStrings.bodyReader.read (s ++ '"' :: rest) = some (s, rest) ↔ JaasPlain s := by
  refine (LiteralSyntax.readBody_eq_self_iff (σ := jaasStrings) rfl).trans ?_
  rw [LiteralSyntax.verbatim_iff_forall_plain (σ := jaasStrings) jaasEscape_spec fun c t hc => ?_]
  · exact forall₂_congr fun c _ => and_congr_right' decide_eq_true_iff
  · change jaasEscape (c :: t) = none
    unfold jaasEscape
    split
    · rename_i heq
      exact absurd (List.cons.inj heq).1 (of_decide_eq_true hc).1
    · rfl

/-- The strings of a JAAS line. -/
def jaasSlots : List (Slot Char) := [
  { lead := "org.apache.kafka.common.security.plain.PlainLoginModule required username=\"",
    reader := jaasStrings.bodyReader },
  { lead := " password=\"", reader := jaasStrings.bodyReader }]

/-- Read the user name and the password of a JAAS line. -/
def parseJaasLine (text : Text) : Option (Text × Text) :=
  match readSlots jaasSlots text with
  | some ([username, password], rest) =>
    if rest = (";" : Text) then some (username, password) else none
  | _ => none

/-- The strings that a JAAS line is built from. -/
def jaasLineParts (username password : Text) : List (FilledSlot Char) :=
  (jaasSlots.zip [username, password]).map fun (slot, value) => { slot with value, close := '"' }

/-- A JAAS line is made of its parts. -/
theorem jaasLine_eq (username password : Text) :
    jaasLine username password = joinParts (jaasLineParts username password) ";" := rfl

/-- The parts of a JAAS line are read back one by one. -/
theorem readSlots_jaasLine_iff (username password : Text) :
    readSlots jaasSlots (jaasLine username password) =
      some ([username, password], (";" : Text)) ↔ JaasPlain username ∧ JaasPlain password := by
  have hparts : ∀ part ∈ jaasLineParts username password, ∀ rest,
      part.reader.read (part.value ++ part.close :: rest) = some (part.value, rest) ↔
        JaasPlain part.value := by
    simp only [jaasLineParts, jaasSlots, List.zip_cons_cons, List.map_cons, List.forall_mem_cons]
    exact ⟨read_jaasStrings_iff username, read_jaasStrings_iff password,
      fun part hpart => absurd hpart List.not_mem_nil⟩
  rw [jaasLine_eq]
  refine (readSlots_joinParts_iff hparts (";" : Text)).trans ?_
  simp [jaasLineParts, jaasSlots]

/-! ### Keeping credentials -/

/-- A text in which credentials are embedded. -/
inductive ConnectionText
  /-- The URI of `_max_mongodb`. -/
  | maxMongodb (sourceConfig : TableSourceConfig)
  /-- The URI option of the MongoDB adapter. -/
  | readMongodb (cfg : TableSourceConfig) (checkpointFrom : Option CheckpointValue)
  /-- The JAAS option of the Kafka adapter. -/
  | readKafka

namespace ConnectionText

/-- The key of the user name. -/
def usernameKey : ConnectionText → Text
  | maxMongodb _ | readMongodb _ _ => "username"
  | readKafka => "sasl_username"

/-- The key of the password. -/
def passwordKey : ConnectionText → Text
  | maxMongodb _ | readMongodb _ _ => "password"
  | readKafka => "sasl_password"

/-- The text for credentials. -/
def build (credentials : Secret) : ConnectionText → Except PyExc (Option Text)
  | maxMongodb sourceConfig =>
    (InitOperator.maxMongodbUri sourceConfig credentials).map some
  | readMongodb cfg checkpointFrom =>
    (SourceMongoDBAdapter.buildConnectionOptions cfg credentials checkpointFrom).map
      fun options => Dict.get? options "spark.mongodb.read.connection.uri".toList
  | readKafka =>
    .ok (Dict.get? (SourceKafkaAdapter.saslOptions credentials) "kafka.sasl.jaas.config")

/-- A text gives back a user name and a password, and all else as it is configured. -/
def KeepsCredentials (username password text : Text) : ConnectionText → Prop
  | maxMongodb cfg | readMongodb cfg _ =>
    parseMongoUri text = some {
      username, password
      host := cfg.host
      port := intText cfg.port
      database := cfg.database
      options := "authSource=admin" }
  | readKafka => parseJaasLine text = some (username, password)

/-- The user names and passwords that a text can hold. -/
def Admits (username password : Text) : ConnectionText → Prop
  | maxMongodb cfg | readMongodb cfg _ => MongoUriAdmits cfg username password
  | readKafka => JaasPlain username ∧ JaasPlain password

end ConnectionText

/-- A MongoDB URI gives back what it admits. -/
theorem parseMongoUri_eq_some_iff {cfg : TableSourceConfig} {username password text : Text}
    (h : mongoUri cfg username password = .ok text) :
    parseMongoUri text = some {
        username, password
        host := cfg.host
        port := intText cfg.port
        database := cfg.database
        options := "authSource=admin" } ↔ MongoUriAdmits cfg username password := by
  rw [← readSlots_mongoUriParts_iff, mongoUri_eq_ok h]
  unfold parseMongoUri
  constructor
  · intro hparse
    split at hparse
    · rename_i hread
      simp only [Option.some.injEq, MongoUri.mk.injEq] at hparse
      obtain ⟨rfl, rfl, rfl, rfl, rfl, rfl⟩ := hparse
      exact hread
    · cases hparse
  · intro hread
    rw [hread]

/-- A JAAS line gives back what it admits. -/
theorem parseJaasLine_eq_some_iff (username password : Text) :
    parseJaasLine (jaasLine username password) = some (username, password) ↔
      JaasPlain username ∧ JaasPlain password := by
  rw [← readSlots_jaasLine_iff]
  unfold parseJaasLine
  constructor
  · intro hparse
    split at hparse
    · rename_i hread
      split at hparse
      · rename_i hrest
        obtain ⟨rfl, rfl⟩ := Prod.mk.inj (Option.some.inj hparse)
        rw [hread, hrest]
      · cases hparse
    · cases hparse
  · intro hread
    rw [hread]
    exact if_pos rfl

/-- The URI option is the connection string. -/
theorem SourceMongoDBAdapter.mongoUri_of_buildConnectionOptions {cfg : TableSourceConfig}
    {credentials : Secret} {checkpointFrom : Option CheckpointValue} {options : Dict Text Text}
    (h : buildConnectionOptions cfg credentials checkpointFrom = .ok options) :
    ∃ text, mongoUri cfg (credentials.formatted "username") (credentials.formatted "password") =
        .ok text ∧ Dict.get? options "spark.mongodb.read.connection.uri".toList = some text := by
  obtain ⟨text, htext, h⟩ := bind_eq_ok_iff.mp h
  obtain ⟨pipeline, -, h⟩ := bind_eq_ok_iff.mp h
  obtain rfl := Except.ok.inj h
  exact ⟨text, htext, if_pos rfl⟩

/-- The JAAS option is the line of the credentials. -/
theorem SourceKafkaAdapter.eq_jaasLine_of_saslOptions {credentials : Secret}
    {username password text : Text} (husername : credentials.text? "sasl_username" = some username)
    (hpassword : credentials.text? "sasl_password" = some password)
    (h : Dict.get? (saslOptions credentials) "kafka.sasl.jaas.config" = some text) :
    text = jaasLine username password := by
  have hprotocol : ("kafka.security.protocol" : Text) ≠ "kafka.sasl.jaas.config" := by
    decide +kernel
  have hmechanism : ("kafka.sasl.mechanism" : Text) ≠ "kafka.sasl.jaas.config" := by decide +kernel
  unfold saslOptions at h
  split at h
  · rename_i saslUsername saslPassword hsaslUsername hsaslPassword
    rw [husername] at hsaslUsername
    rw [hpassword] at hsaslPassword
    obtain rfl := Option.some.inj (Option.filter_eq_some_iff.mp hsaslUsername).1
    obtain rfl := Option.some.inj (Option.filter_eq_some_iff.mp hsaslPassword).1
    rw [Dict.get?, if_neg hprotocol, Dict.get?, if_neg hmechanism, Dict.get?, if_pos rfl] at h
    exact (Option.some.inj h).symm
  · cases h

/-- **Which connection texts keep credentials**: a MongoDB URI those whose characters all stand for
themselves in their component, and a JAAS line those without a quotation mark, a backslash and a
line end. -/
theorem keepsCredentials_iff {c : ConnectionText} {credentials : Secret}
    {username password text : Text} (husername : credentials.text? c.usernameKey = some username)
    (hpassword : credentials.text? c.passwordKey = some password)
    (hbuild : c.build credentials = .ok (some text)) :
    c.KeepsCredentials username password text ↔ c.Admits username password := by
  cases c with
  | maxMongodb cfg =>
    dsimp only [ConnectionText.usernameKey, ConnectionText.passwordKey] at husername hpassword
    obtain ⟨text', huri, heq⟩ := map_eq_ok_iff.mp hbuild
    obtain rfl := Option.some.inj heq
    rw [InitOperator.maxMongodbUri, Secret.formatted_of_text? husername,
      Secret.formatted_of_text? hpassword] at huri
    exact parseMongoUri_eq_some_iff huri
  | readMongodb cfg checkpointFrom =>
    dsimp only [ConnectionText.usernameKey, ConnectionText.passwordKey] at husername hpassword
    obtain ⟨options, hoptions, heq⟩ := map_eq_ok_iff.mp hbuild
    obtain ⟨text', huri, hget⟩ :=
      SourceMongoDBAdapter.mongoUri_of_buildConnectionOptions hoptions
    obtain rfl := Option.some.inj (heq.symm.trans hget)
    rw [Secret.formatted_of_text? husername, Secret.formatted_of_text? hpassword] at huri
    exact parseMongoUri_eq_some_iff huri
  | readKafka =>
    obtain rfl := SourceKafkaAdapter.eq_jaasLine_of_saslOptions husername hpassword
      (Except.ok.inj hbuild)
    exact parseJaasLine_eq_some_iff username password

/-- The credentials of a login. -/
def ConnectionText.login (c : ConnectionText) (username password : Text) : Secret where
  other := [(c.usernameKey, .str username), (c.passwordKey, .str password)]

/-- A text is built for a login, and the login comes back from it. -/
def ConnectionText.KeepsLogin (c : ConnectionText) (username password : Text) : Prop :=
  ∃ text, c.build (c.login username password) = .ok (some text) ∧
    c.KeepsCredentials username password text

/-- A text is built for a login, and the login does not come back from it. -/
def ConnectionText.LosesLogin (c : ConnectionText) (username password : Text) : Prop :=
  ∃ text, c.build (c.login username password) = .ok (some text) ∧
    ¬c.KeepsCredentials username password text

namespace ConnectionText

/-- The user name of a login. -/
theorem text?_usernameKey_login (c : ConnectionText) (username password : Text) :
    (c.login username password).text? c.usernameKey = some username := by
  rw [Secret.text?, login, Dict.get?, if_pos rfl]

/-- The password of a login. -/
theorem text?_passwordKey_login (c : ConnectionText) (username password : Text) :
    (c.login username password).text? c.passwordKey = some password := by
  have hmongo : ("username" : Text) ≠ "password" := by decide +kernel
  have hkafka : ("sasl_username" : Text) ≠ "sasl_password" := by decide +kernel
  have hkey : c.usernameKey ≠ c.passwordKey := by
    cases c
    exacts [hmongo, hmongo, hkafka]
  rw [Secret.text?, login, Dict.get?, if_neg hkey, Dict.get?, if_pos rfl]

end ConnectionText

/-- Words of letters and digits are kept by all three texts. -/
theorem keepsCredentials_words :
    (ConnectionText.maxMongodb ordersById).KeepsLogin "reader" "pass1" ∧
      (ConnectionText.readMongodb ordersById none).KeepsLogin "reader" "pass1" ∧
      ConnectionText.readKafka.KeepsLogin "reader" "pass1" := by
  have hkeeps (c : ConnectionText) (text : Text)
      (h : c.build (c.login "reader" "pass1") = .ok (some text)) :=
    keepsCredentials_iff (c.text?_usernameKey_login "reader" "pass1")
      (c.text?_passwordKey_login "reader" "pass1") h
  have hmongo : MongoUriAdmits ordersById "reader" "pass1" :=
    ⟨uriPlain_iff_all.mpr (by decide +kernel), uriPlain_iff_all.mpr (by decide +kernel),
      .inl (uriPlain_iff_all.mpr (by decide +kernel)), by decide,
      uriPlain_iff_all.mpr (by decide +kernel)⟩
  have hjaas : JaasPlain "reader" ∧ JaasPlain "pass1" :=
    ⟨jaasPlain_iff_all.mpr (by decide +kernel), jaasPlain_iff_all.mpr (by decide +kernel)⟩
  exact ⟨⟨_, rfl, (hkeeps _ _ rfl).mpr hmongo⟩, ⟨_, rfl, (hkeeps _ _ rfl).mpr hmongo⟩,
    jaasLine "reader" "pass1", by decide +kernel, (hkeeps _ _ (by decide +kernel)).mpr hjaas⟩

/-- A password with an at sign and a quotation mark is kept by none of them. -/
theorem not_keepsCredentials_special :
    (ConnectionText.maxMongodb ordersById).LosesLogin "reader" "p@s\"s" ∧
      (ConnectionText.readMongodb ordersById none).LosesLogin "reader" "p@s\"s" ∧
      ConnectionText.readKafka.LosesLogin "reader" "p@s\"s" := by
  have hmongo : ¬MongoUriAdmits ordersById "reader" "p@s\"s" := fun h =>
    absurd (uriPlain_iff_all.mp h.2.1) (by decide +kernel)
  have hjaas : ¬(JaasPlain "reader" ∧ JaasPlain "p@s\"s") := fun h =>
    absurd (jaasPlain_iff_all.mp h.2) (by decide +kernel)
  exact ⟨⟨_, rfl, (parseMongoUri_eq_some_iff rfl).not.mpr hmongo⟩,
    ⟨_, rfl, (parseMongoUri_eq_some_iff rfl).not.mpr hmongo⟩,
    jaasLine "reader" "p@s\"s", by decide +kernel,
    (parseJaasLine_eq_some_iff _ _).not.mpr hjaas⟩

end BatchIngestion
