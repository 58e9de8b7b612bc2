import RemoteObjects.Association
import RemoteObjects.Proofs.Except
import RemoteObjects.Proofs.List
import RemoteObjects.Proofs.Text
import RemoteObjects.Settings

namespace RemoteObjects.Settings

/-- Apart from white space around it and the case of its letters the text is one of the words. -/
def Says (words : List String) (text : String) : Prop :=
  ∃ inner, Text.Trimmed text inner ∧
    ∃ word ∈ words, List.Forall₂ Text.LowersTo inner.toList word.toList

def NamesTransport (text : String) : TransportKind → Prop
  | .direct => Says ["direct", "sync"] text
  | .correlated => Says ["correlated", "async"] text

/-- A name is kept with the white space around it, but it must not be all white space. -/
def NamesItself (text name : String) : Prop :=
  name = text ∧ ∃ character ∈ text.toList, ¬ Text.IsWhite character

/-- The text is a number of milliseconds that fits into 64 bits, with white space around it. -/
def Lasts (text : String) (timeout : Option Nat) : Prop :=
  ∃ inner number, Text.Trimmed text inner ∧ Text.Numeral inner number ∧ number < 2 ^ 64 ∧
    timeout = some number

/-- The reader gives what a text means, or this complaint if it means nothing. -/
structure Reads {α : Type} (read : String → Except Failure α) (means : String → α → Prop)
    (complaint : String → Failure) : Prop where
  ok : ∀ {text value}, read text = .ok value ↔ means text value
  error : ∀ {text failure}, read text = .error failure ↔
    (¬ ∃ value, means text value) ∧ failure = complaint text

/-- A reader is known by the texts that it accepts if it has only one complaint. -/
theorem Reads.of_ok {α : Type} {read : String → Except Failure α} {means : String → α → Prop}
    {complaint : String → Failure} (ok : ∀ {text value}, read text = .ok value ↔ means text value)
    (complains : ∀ {text failure}, read text = .error failure → failure = complaint text) :
    Reads read means complaint := by
  refine ⟨ok, fun {text failure} => ⟨fun failed => ⟨?_, complains failed⟩, ?_⟩⟩
  · rintro ⟨value, meant⟩
    cases failed.symm.trans (ok.mpr meant)
  · rintro ⟨meaningless, rfl⟩
    cases result : read text with
    | ok value => exact absurd ⟨value, ok.mp result⟩ meaningless
    | error other => rw [complains result]

theorem says_iff (words : List String) (text : String) :
    Says words text ↔ Text.asciiLower (Text.trim text) ∈ words := by
  constructor
  · rintro ⟨inner, trimmed, word, member, spelled⟩
    rw [trimmed.trim_eq, Text.asciiLower_eq_iff.mpr spelled]
    exact member
  · intro member
    exact ⟨_, Text.trimmed_trim text, _, member, Text.asciiLower_eq_iff.mp rfl⟩

theorem readTransport_reads : Reads readTransport NamesTransport .invalidTransport := by
  apply Reads.of_ok
  · intro text kind
    cases kind with
    | direct =>
        rw [NamesTransport, says_iff, readTransport]
        grind
    | correlated =>
        rw [NamesTransport, says_iff, readTransport]
        grind
  · intro text failure failed
    rw [readTransport] at failed
    grind

theorem readName_reads (key : String) :
    Reads (readName key) NamesItself fun _ => .emptyValue key := by
  have blank (text : String) :
      Text.isAllBlank text = true ↔ ¬ ∃ character ∈ text.toList, ¬ Text.IsWhite character := by
    simp [Text.isAllBlank_iff]
  apply Reads.of_ok
  · intro text name
    rw [readName, NamesItself]
    by_cases empty : Text.isAllBlank text = true
    · simp [empty, (blank text).mp empty]
    · rw [if_neg empty, Except.ok.injEq, eq_comm]
      exact (and_iff_left (not_not.mp (mt (blank text).mpr empty))).symm
  · intro text failure failed
    unfold readName at failed
    split at failed
    · cases failed
      rfl
    · cases failed

theorem readTimeout_reads :
    Reads (fun text => some <$> readTimeout text) Lasts .invalidTimeout := by
  apply Reads.of_ok
  · intro text timeout
    constructor
    · intro read
      unfold readTimeout at read
      split at read
      · rename_i number found
        cases read
        obtain ⟨numeral, small⟩ := (Text.readNumber_eq_some_iff ..).mp found
        exact ⟨_, number, Text.trimmed_trim text, numeral, small, rfl⟩
      · cases read
    · rintro ⟨inner, number, trimmed, numeral, small, rfl⟩
      have found : Text.readNumber UInt64.size inner = some number :=
        (Text.readNumber_eq_some_iff ..).mpr ⟨numeral, small⟩
      simp only [readTimeout, trimmed.trim_eq, found]
      rfl
  · intro text failure failed
    unfold readTimeout at failed
    split at failed
    · cases failed
    · cases failed
      rfl

section Keys

variable {α : Type} {read : String → Except Failure α} {means : String → α → Prop}
  {complaint : String → Failure} {text? : Option String} {default value : α} {failure : Failure}

/-- An unset key gives the default, and a set one what its text means. -/
def Taken (text? : Option String) (default : α) (means : String → α → Prop) (value : α) : Prop :=
  match text? with
  | none => value = default
  | some text => means text value

theorem Reads.readKey_eq_ok_iff (reads : Reads read means complaint) :
    readKey text? default read = .ok value ↔ Taken text? default means value := by
  cases text? with
  | none =>
      rw [readKey, Taken, Except.ok.injEq]
      exact eq_comm
  | some text => exact reads.ok

/-- A text means one thing only. -/
theorem Reads.taken_unique (reads : Reads read means complaint) {other : α}
    (taken : Taken text? default means value) (alsoTaken : Taken text? default means other) :
    value = other := by
  rw [← reads.readKey_eq_ok_iff] at taken alsoTaken
  exact Except.ok.inj (taken.symm.trans alsoTaken)

theorem Reads.readKey_eq_error_iff (reads : Reads read means complaint) :
    readKey text? default read = .error failure ↔
      ∃ text, text? = some text ∧ (¬ ∃ value, means text value) ∧ failure = complaint text := by
  cases text? with
  | none => simp [readKey]
  | some text => simpa [readKey] using reads.error

end Keys

/-- The keys in the order in which they are read. -/
inductive Key where
  | transport
  | endpoint
  | enclave
  | timeout
deriving DecidableEq

namespace Key

def all : List Key :=
  [.transport, .endpoint, .enclave, .timeout]

def name : Key → String
  | .transport => "XDRUN_TRANSPORT"
  | .endpoint => "XDRUN_ENDPOINT"
  | .enclave => "XDRUN_ENCLAVE"
  | .timeout => "XDRUN_RECV_TIMEOUT_MS"

/-- The text is valid under this key. -/
def Allows : Key → String → Prop
  | .transport, text => ∃ kind, NamesTransport text kind
  | .endpoint, text | .enclave, text => ∃ name, NamesItself text name
  | .timeout, text => ∃ timeout, Lasts text timeout

/-- What is said of an invalid text. -/
def complaint (key : Key) (text : String) : Failure :=
  match key with
  | .transport => .invalidTransport text
  | .endpoint | .enclave => .emptyValue key.name
  | .timeout => .invalidTimeout text

/-- The key is set to an invalid text. -/
def Broken (lookup : String → Option String) (key : Key) : Prop :=
  ∃ text, lookup key.name = some text ∧ ¬ key.Allows text

/-- Two settings agree in the field of this key. -/
def Agrees (key : Key) (first second : Settings) : Prop :=
  match key with
  | .transport => first.transport = second.transport
  | .endpoint => first.endpoint = second.endpoint
  | .enclave => first.enclave = second.enclave
  | .timeout => first.timeout = second.timeout

end Key

/-- Each field is the default of its key or what the text under its key means. -/
structure Follows (lookup : String → Option String) (settings : Settings) : Prop where
  transport : Taken (lookup Key.transport.name) .correlated NamesTransport settings.transport
  endpoint : Taken (lookup Key.endpoint.name) "ClosureRemote" NamesItself settings.endpoint
  enclave : Taken (lookup Key.enclave.name) "local" NamesItself settings.enclave
  timeout : Taken (lookup Key.timeout.name) none Lasts settings.timeout

/-- The failure with which the reading of one key ends. -/
def Key.failure? (lookup : String → Option String) : Key → Option Failure
  | .transport => failureOf? (readKey (lookup transportKey) .correlated readTransport)
  | .endpoint => failureOf? (readKey (lookup endpointKey) "ClosureRemote" (readName endpointKey))
  | .enclave => failureOf? (readKey (lookup enclaveKey) "local" (readName enclaveKey))
  | .timeout =>
      failureOf? (readKey (lookup timeoutKey) none fun text => some <$> readTimeout text)

variable {lookup : String → Option String} {settings : Settings} {failure : Failure}

/-- The keys are read one after the other, and the first failure ends the reading. -/
theorem ofLookup_eq_error_iff :
    ofLookup lookup = .error failure ↔ Key.all.findSome? (Key.failure? lookup) = some failure := by
  simp only [ofLookup, Key.all, List.findSome?_cons, Key.failure?, bind, Except.bind]
  cases readKey (lookup transportKey) TransportKind.correlated readTransport with
  | error complaint => simp [failureOf?]
  | ok transport =>
      cases readKey (lookup endpointKey) "ClosureRemote" (readName endpointKey) with
      | error complaint => simp [failureOf?]
      | ok endpoint =>
          cases readKey (lookup enclaveKey) "local" (readName enclaveKey) with
          | error complaint => simp [failureOf?]
          | ok enclave =>
              cases readKey (lookup timeoutKey) none fun text => some <$> readTimeout text with
              | error complaint => simp [failureOf?]
              | ok timeout => simp [failureOf?, pure, Except.pure]

theorem ofLookup_eq_ok_iff : ofLookup lookup = .ok settings ↔ settings.Follows lookup := by
  have fields : settings.Follows lookup ↔
      readKey (lookup transportKey) TransportKind.correlated readTransport =
          .ok settings.transport ∧
        readKey (lookup endpointKey) "ClosureRemote" (readName endpointKey) =
          .ok settings.endpoint ∧
        readKey (lookup enclaveKey) "local" (readName enclaveKey) = .ok settings.enclave ∧
        (readKey (lookup timeoutKey) none fun text => some <$> readTimeout text) =
          .ok settings.timeout := by
    rw [readTransport_reads.readKey_eq_ok_iff, (readName_reads _).readKey_eq_ok_iff,
      (readName_reads _).readKey_eq_ok_iff, readTimeout_reads.readKey_eq_ok_iff]
    exact ⟨fun ⟨transport, endpoint, enclave, timeout⟩ => ⟨transport, endpoint, enclave, timeout⟩,
      fun ⟨transport, endpoint, enclave, timeout⟩ => ⟨transport, endpoint, enclave, timeout⟩⟩
  rw [fields, ofLookup]
  simp only [bind_eq_ok_iff, pure, Except.pure, Except.ok.injEq]
  constructor
  · rintro ⟨transport, readsTransport, endpoint, readsEndpoint, enclave, readsEnclave, timeout,
      readsTimeout, rfl⟩
    exact ⟨readsTransport, readsEndpoint, readsEnclave, readsTimeout⟩
  · rintro ⟨readsTransport, readsEndpoint, readsEnclave, readsTimeout⟩
    exact ⟨_, readsTransport, _, readsEndpoint, _, readsEnclave, _, readsTimeout, rfl⟩

theorem Key.failure?_eq_some_iff (key : Key) :
    key.failure? lookup = some failure ↔
      ∃ text, lookup key.name = some text ∧ ¬ key.Allows text ∧ failure = key.complaint text := by
  have reported {α : Type} {result : Except Failure α} :
      failureOf? result = some failure ↔ result = .error failure := by
    cases result <;> simp [failureOf?]
  cases key with
  | transport => exact reported.trans readTransport_reads.readKey_eq_error_iff
  | endpoint => exact reported.trans (readName_reads endpointKey).readKey_eq_error_iff
  | enclave => exact reported.trans (readName_reads enclaveKey).readKey_eq_error_iff
  | timeout => exact reported.trans readTimeout_reads.readKey_eq_error_iff

theorem Key.failure?_eq_none_iff (key : Key) : key.failure? lookup = none ↔ ¬ key.Broken lookup := by
  rw [Option.eq_none_iff_forall_ne_some]
  simp only [ne_eq, Key.failure?_eq_some_iff]
  constructor
  · rintro fine ⟨text, found, invalid⟩
    exact fine _ ⟨text, found, invalid, rfl⟩
  · rintro fine failure ⟨text, found, invalid, _⟩
    exact fine ⟨text, found, invalid⟩

theorem Key.mem_all (key : Key) : key ∈ Key.all := by
  cases key <;> decide

theorem ofLookup_succeeds_iff :
    (∃ settings, ofLookup lookup = .ok settings) ↔ ∀ key : Key, ¬ key.Broken lookup := by
  have complaints : Key.all.findSome? (Key.failure? lookup) = none ↔
      ∀ key : Key, ¬ key.Broken lookup := by
    simp only [List.findSome?_eq_none_iff, Key.failure?_eq_none_iff, Key.mem_all, true_imp_iff]
  rw [← complaints]
  cases result : ofLookup lookup with
  | error failure => simp [ofLookup_eq_error_iff.mp result]
  | ok settings =>
      refine iff_of_true ⟨settings, rfl⟩ ?_
      rw [Option.eq_none_iff_forall_ne_some]
      intro failure complains
      cases result.symm.trans (ofLookup_eq_error_iff.mpr complains)

/-- The first key that is set to an invalid text is to blame. -/
theorem ofLookup_eq_error_iff_isEarliest :
    ofLookup lookup = .error failure ↔
      ∃ key text, IsEarliest (Key.Broken lookup) Key.all key ∧ lookup key.name = some text ∧
        failure = key.complaint text := by
  rw [ofLookup_eq_error_iff, List.findSome?_eq_some_iff]
  constructor
  · rintro ⟨before, key, after, order, complains, fine⟩
    obtain ⟨text, found, invalid, rfl⟩ := key.failure?_eq_some_iff.mp complains
    refine ⟨key, text, ⟨before, after, order, ⟨text, found, invalid⟩, ?_⟩, found, rfl⟩
    intro earlier member
    exact earlier.failure?_eq_none_iff.mp (fine earlier member)
  · rintro ⟨key, text, ⟨before, after, order, ⟨broken, set, invalid⟩, fine⟩, found, rfl⟩
    cases set.symm.trans found
    refine ⟨before, key, after, order, key.failure?_eq_some_iff.mpr ⟨text, found, invalid, rfl⟩, ?_⟩
    intro earlier member
    exact earlier.failure?_eq_none_iff.mpr (fine earlier member)

theorem Follows.agrees {other : String → Option String} {theirs : Settings}
    (follows : settings.Follows lookup) (otherFollows : theirs.Follows other) {key : Key}
    (same : lookup key.name = other key.name) : key.Agrees settings theirs := by
  cases key with
  | transport => exact readTransport_reads.taken_unique follows.transport (same ▸ otherFollows.transport)
  | endpoint => exact (readName_reads "").taken_unique follows.endpoint (same ▸ otherFollows.endpoint)
  | enclave => exact (readName_reads "").taken_unique follows.enclave (same ▸ otherFollows.enclave)
  | timeout => exact readTimeout_reads.taken_unique follows.timeout (same ▸ otherFollows.timeout)

/-- Settings are obtained exactly if each key is unset or has a valid text, and the first key with an
invalid text gives the failure. No field depends on another key. -/
theorem ofLookup_judges_keys (lookup : String → Option String) :
    ((∃ settings, ofLookup lookup = .ok settings) ↔
      ∀ (key : Key) (text : String), lookup key.name = some text → key.Allows text) ∧
    (∀ settings, ofLookup lookup = .ok settings ↔ settings.Follows lookup) ∧
    (∀ failure, ofLookup lookup = .error failure ↔
      ∃ key text, IsEarliest (Key.Broken lookup) Key.all key ∧ lookup key.name = some text ∧
        failure = key.complaint text) ∧
    ∀ (other : String → Option String) (settings theirs : Settings),
      ofLookup lookup = .ok settings → ofLookup other = .ok theirs →
        ∀ key : Key, lookup key.name = other key.name → key.Agrees settings theirs := by
  refine ⟨?_, fun settings => ofLookup_eq_ok_iff, fun failure => ofLookup_eq_error_iff_isEarliest, ?_⟩
  · rw [ofLookup_succeeds_iff]
    simp only [Key.Broken, not_exists, not_and, not_not]
  · intro other settings theirs read alsoRead key same
    exact (ofLookup_eq_ok_iff.mp read).agrees (ofLookup_eq_ok_iff.mp alsoRead) same

/-- The largest timeout has a sign, a leading zero and no digit too many. Settings from texts with the same
transport have this transport, however the other texts differ. With an endpoint of one control character and
a timeout of one millisecond too many, the endpoint is to blame. -/
theorem ofLookup_judges_keys_at_limit :
    let lookup := (Association.ofList [("XDRUN_TRANSPORT", "\u3000SYNC\t"), ("XDRUN_ENDPOINT", " svc "),
      ("XDRUN_RECV_TIMEOUT_MS", "+018446744073709551615")]).find?
    let other := (Association.ofList [("XDRUN_TRANSPORT", "\u3000SYNC\t")]).find?
    let wrong := (Association.ofList [("XDRUN_ENDPOINT", "\u0085"),
      ("XDRUN_RECV_TIMEOUT_MS", "18446744073709551616")]).find?
    let settings : Settings := ⟨.direct, " svc ", "local", some (2 ^ 64 - 1)⟩
    let theirs : Settings := ⟨.direct, "ClosureRemote", "local", none⟩
    (ofLookup lookup = .ok settings ∧ ofLookup other = .ok theirs ∧
        lookup Key.transport.name = other Key.transport.name ∧
        Key.transport.Agrees settings theirs) ∧
      ofLookup wrong = .error (.emptyValue "XDRUN_ENDPOINT") ∧
        ∃ key text, IsEarliest (Key.Broken wrong) Key.all key ∧ wrong key.name = some text ∧
          .emptyValue "XDRUN_ENDPOINT" = key.complaint text := by
  intro lookup other wrong settings theirs
  have read : ofLookup lookup = .ok settings := by decide +kernel
  have alsoRead : ofLookup other = .ok theirs := by decide +kernel
  have same : lookup Key.transport.name = other Key.transport.name := by decide +kernel
  have failed : ofLookup wrong = .error (.emptyValue "XDRUN_ENDPOINT") := by decide +kernel
  exact ⟨⟨read, alsoRead, same,
      (ofLookup_judges_keys lookup).2.2.2 other settings theirs read alsoRead .transport same⟩,
    failed, ((ofLookup_judges_keys wrong).2.2.1 _).mp failed⟩

end RemoteObjects.Settings
