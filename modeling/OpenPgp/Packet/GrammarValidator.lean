import OpenPgp.Packet.Grammar
import OpenPgp.Crypto.Primitives

/-!
# The grammar validators

The two validators of `src/packet/grammar.ts` that the message parser calls as packets arrive,
each over the tags read so far. A validator is a closure with state, so each is a state machine
here: its state holds the closure's variables and the calls it has made out of the library, to
`config.pluggableGrammarErrorReporter` and to `util.printDebugError` (`Effect`).

* `getSyncMessageGrammarValidator`: throws a `GrammarError` at the first list that fails, under
  `enforceGrammar`. `syncValidateAll_prefixes`: fed the growing prefixes of a list the final check
  accepts, it never throws and never reports, since partial acceptance is prefix-closed.
* `getAsyncMessageGrammarValidator`: stores the verdict in a promise that it hands out only once
  `markAuthenticated` has been called, so that grammar errors in unauthenticated data cannot be
  observed. Before authentication every call returns `undefined`, but the first invalid list is
  reported and printed at once (`validateAll_run`), so two runs with the same flags are told
  apart by the validity of their lists (`validateAll_observation`).
-/

namespace OpenPgp

open PacketTag

/-- `new GrammarError(...).message` for a tag list: the tags as JavaScript writes an array in a
template string, separated by commas. -/
def grammarErrorMessage (list : List Nat) : String :=
  "Data does not respect OpenPGP grammar [" ++ ",".intercalate (list.map toString) ++ "]"

/-- A call a validator makes out of the library. -/
inductive Effect
  /-- `config.pluggableGrammarErrorReporter(error.message)`. -/
  | reportGrammarError (message : String)
  /-- `util.printDebugError(error)`, for the error of this message. -/
  | printDebugError (message : String)
deriving DecidableEq, Repr

/-- `config.pluggableGrammarErrorReporter?.(message)`: a call when the reporter is set. -/
def reportGrammarError (config : Config) (message : String) : List Effect :=
  if config.hasGrammarErrorReporter then [.reportGrammarError message] else []

/-! ## The synchronous validator -/

/-- The closure of `getSyncMessageGrammarValidator()`: its `logged` flag, and the calls made out
so far. -/
structure SyncGrammarValidator where
  logged : Bool := false
  effects : List Effect := []
deriving DecidableEq, Repr

/-- The function `getSyncMessageGrammarValidator()` returns, called on `(list, acceptPartial,
config)`. It throws the `GrammarError`, here its message, under `enforceGrammar`. -/
def syncMessageGrammarValidator (list : List Nat) (acceptPartial : Bool) (config : Config) :
    EStateM String SyncGrammarValidator Unit := do
  if isValidOpenPGPMessage list acceptPartial then return
  let message := grammarErrorMessage list
  if config.enforceGrammar then
    modify fun v => { v with effects := v.effects ++ reportGrammarError config message }
    throw message
  else if !(← get).logged then
    modify fun v => { v with
      effects := v.effects ++ reportGrammarError config message ++ [.printDebugError message],
      logged := true }

/-- The synchronous validator called on each `(list, acceptPartial)` in turn, as the parser calls
it while packets arrive. -/
def syncValidateAll (config : Config) :
    List (List Nat × Bool) → EStateM String SyncGrammarValidator Unit
  | [] => pure ()
  | (list, acceptPartial) :: calls => do
    syncMessageGrammarValidator list acceptPartial config
    syncValidateAll config calls

/-- The calls over a message's tags as its packets arrive: the tags read so far as a partial list
after each packet, then the whole list as a complete one. -/
def streamingCalls (list : List Nat) : List (List Nat × Bool) :=
  (List.range list.length).map (fun n => (list.take (n + 1), true)) ++ [(list, false)]

/-- On a list the recognizer accepts, the synchronous validator does nothing. -/
theorem syncMessageGrammarValidator_of_valid {list : List Nat} {acceptPartial : Bool}
    (config : Config) (h : isValidOpenPGPMessage list acceptPartial = true)
    (v : SyncGrammarValidator) :
    (syncMessageGrammarValidator list acceptPartial config).run v = .ok () v := by
  simp only [syncMessageGrammarValidator, h, if_true]
  rfl

/-- Over calls on lists the recognizer accepts, the synchronous validator does nothing. -/
theorem syncValidateAll_of_valid (config : Config) (v : SyncGrammarValidator) :
    ∀ calls : List (List Nat × Bool), (∀ c ∈ calls, isValidOpenPGPMessage c.1 c.2 = true) →
      (syncValidateAll config calls).run v = .ok () v
  | [], _ => rfl
  | (list, acceptPartial) :: calls, h => by
    have hc : syncMessageGrammarValidator list acceptPartial config v = .ok () v :=
      syncMessageGrammarValidator_of_valid config (h _ (List.mem_cons_self _ _)) v
    have ih : syncValidateAll config calls v = .ok () v :=
      syncValidateAll_of_valid config v calls fun c hc => h c (List.mem_cons_of_mem _ hc)
    show EStateM.bind _ (fun _ => syncValidateAll config calls) v = _
    simp only [EStateM.bind, hc, ih]

/-- Every call over the growing tag list of a message the final check accepts is accepted:
partial acceptance is prefix-closed. -/
theorem streamingCalls_valid {list : List Nat} (h : isValidOpenPGPMessage list false = true) :
    ∀ c ∈ streamingCalls list, isValidOpenPGPMessage c.1 c.2 = true := by
  intro c hc
  simp only [streamingCalls, List.mem_append, List.mem_map, List.mem_range,
    List.mem_singleton] at hc
  rcases hc with ⟨n, -, rfl⟩ | rfl
  · rw [← isValidOpenPGPMessage_normalizeTags]
    exact ((isValidOpenPGPMessage_iff _).1 h).partial_of_initial _
      ((List.take_prefix _ _).filter keptTag)
  · exact h

/-- A configuration that enforces the grammar and sets a grammar error reporter. -/
def reportingConfig : Config :=
  { aeadProtect := false, preferredAEADAlgorithm := 2, parseAEADEncryptedV4KeysAsLegacy := false
    s2kType := 3, s2kIterationCountByte := 224, s2kArgon2Params := (1, 4, 21)
    enforceGrammar := true, hasGrammarErrorReporter := true }

/-- **The streaming validator never rejects an accepted message.** Fed the growing tag list of a
message whose complete list the final check accepts, the synchronous validator neither throws nor
reports, whatever the configuration. -/
theorem syncValidateAll_prefixes (config : Config) {list : List Nat}
    (h : isValidOpenPGPMessage list false = true) (v : SyncGrammarValidator) :
    (syncValidateAll config (streamingCalls list)).run v = .ok () v :=
  syncValidateAll_of_valid config v _ (streamingCalls_valid h)

theorem syncValidateAll_prefixes_literal :
    (syncValidateAll reportingConfig (streamingCalls [literalData])).run {} = .ok () {} :=
  syncValidateAll_prefixes reportingConfig (isValidOpenPGPMessage_literal false) {}

/-! ## The asynchronous validator -/

/-- The state of `grammarCheckPromiseWithResolvers.promise`. -/
inductive GrammarCheck
  | pending
  /-- Resolved with `true`. -/
  | resolved
  /-- Rejected with the `GrammarError` of this message. -/
  | rejected (message : String)
deriving DecidableEq, Repr

namespace GrammarCheck

/-- `grammarCheckPromiseWithResolvers.resolve(true)`: nothing once the promise has settled. -/
def resolve : GrammarCheck → GrammarCheck
  | pending => resolved
  | c => c

/-- `grammarCheckPromiseWithResolvers.reject(error)`: nothing once the promise has settled. -/
def reject (message : String) : GrammarCheck → GrammarCheck
  | pending => rejected message
  | c => c

/-- `await util.isPromisePending(promise) === false`, from its use here (`src/util.js` is absent):
the promise has settled. -/
def isSettled : GrammarCheck → Bool
  | pending => false
  | _ => true

end GrammarCheck

/-- The closure of `getAsyncMessageGrammarValidator()`: the promise, the `authenticated` and
`logged` flags, and the calls made out so far. -/
structure AsyncGrammarValidator where
  grammarCheck : GrammarCheck := .pending
  authenticated : Bool := false
  logged : Bool := false
  effects : List Effect := []
deriving DecidableEq, Repr

namespace AsyncGrammarValidator

/-- The end of both methods: the promise once it has settled and authentication has been marked,
and `undefined` (`none`) otherwise. -/
def settledPromise : StateM AsyncGrammarValidator (Option GrammarCheck) := do
  let v ← get
  if v.authenticated && v.grammarCheck.isSettled then return some v.grammarCheck
  return none

/-- `markAuthenticated()`. -/
def markAuthenticated : StateM AsyncGrammarValidator (Option GrammarCheck) := do
  modify fun v => { v with authenticated := true }
  settledPromise

/-- `messageGrammarValidatorWithLatentReporting(list, isPartial, config)`. -/
def messageGrammarValidatorWithLatentReporting (list : List Nat) (isPartial : Bool)
    (config : Config) : StateM AsyncGrammarValidator (Option GrammarCheck) := do
  let isValid := isValidOpenPGPMessage list isPartial
  if isValid then
    if !isPartial then
      modify fun v => { v with grammarCheck := v.grammarCheck.resolve }
  else
    let message := grammarErrorMessage list
    if !(← get).logged then
      modify fun v => { v with
        effects := v.effects ++ reportGrammarError config message ++ [.printDebugError message],
        logged := true }
    if config.enforceGrammar then
      modify fun v => { v with grammarCheck := v.grammarCheck.reject message }
    else if !isPartial then
      modify fun v => { v with grammarCheck := v.grammarCheck.resolve }
  settledPromise

/-- Calls of `messageGrammarValidatorWithLatentReporting` on each `(list, isPartial)` in turn, each
awaited before the next, under one configuration: the values they resolve to. -/
def validateAll (config : Config) :
    List (List Nat × Bool) → StateM AsyncGrammarValidator (List (Option GrammarCheck))
  | [] => pure []
  | (list, isPartial) :: calls => do
    let r ← messageGrammarValidatorWithLatentReporting list isPartial config
    let rs ← validateAll config calls
    return r :: rs

/-- The calls out that the first grammar error of a validator makes: the report, when a reporter
is set, and the debug print. -/
def grammarErrorEffects (config : Config) (list : List Nat) : List Effect :=
  reportGrammarError config (grammarErrorMessage list) ++
    [.printDebugError (grammarErrorMessage list)]

/-- The first list of a sequence of calls that the recognizer rejects. -/
def firstInvalid (calls : List (List Nat × Bool)) : Option (List Nat) :=
  (calls.find? fun c => !isValidOpenPGPMessage c.1 c.2).map Prod.fst

/-- Before authentication a call returns `undefined`; what it changes besides the promise is the
`logged` flag and, at the first invalid list, the calls out. -/
theorem messageGrammarValidatorWithLatentReporting_run (list : List Nat) (isPartial : Bool)
    (config : Config) {v : AsyncGrammarValidator} (hv : v.authenticated = false) :
    ∃ grammarCheck, (messageGrammarValidatorWithLatentReporting list isPartial config).run v =
      (none, { v with
        grammarCheck := grammarCheck
        logged := v.logged || !isValidOpenPGPMessage list isPartial
        effects := v.effects ++
          if v.logged || isValidOpenPGPMessage list isPartial then []
          else grammarErrorEffects config list }) := by
  obtain ⟨grammarCheck, authenticated, logged, effects⟩ := v
  subst hv
  cases hval : isValidOpenPGPMessage list isPartial <;> cases logged <;>
    cases he : config.enforceGrammar <;> cases isPartial <;>
    simp [messageGrammarValidatorWithLatentReporting, settledPromise, hval, he,
      grammarErrorEffects] <;>
    exact ⟨_, rfl⟩

/-- **Before authentication, a run reports its first invalid list.** Every call returns
`undefined`, and the calls out are those of the first list the recognizer rejects, unless the
validator had already logged. -/
theorem validateAll_run (config : Config) :
    ∀ (calls : List (List Nat × Bool)) {v : AsyncGrammarValidator}, v.authenticated = false →
      ∃ grammarCheck, (validateAll config calls).run v =
        (calls.map fun _ => none, { v with
          grammarCheck := grammarCheck
          logged := v.logged || (firstInvalid calls).isSome
          effects := v.effects ++
            if v.logged then [] else ((firstInvalid calls).map (grammarErrorEffects config)).getD [] })
  | [], v, _ => ⟨v.grammarCheck, by simp [validateAll, firstInvalid]⟩
  | (list, isPartial) :: calls, v, hv => by
    obtain ⟨g, hg⟩ := messageGrammarValidatorWithLatentReporting_run list isPartial config hv
    obtain ⟨g', hg'⟩ := @validateAll_run config calls { v with
      grammarCheck := g
      logged := v.logged || !isValidOpenPGPMessage list isPartial
      effects := v.effects ++
        if v.logged || isValidOpenPGPMessage list isPartial then []
        else grammarErrorEffects config list } hv
    refine ⟨g', ?_⟩
    simp only [validateAll, StateT.run_bind, hg, Id.bind_eq, hg', StateT.run_pure, Id.pure_eq]
    cases hval : isValidOpenPGPMessage list isPartial <;> cases v.logged <;>
      simp [firstInvalid, List.find?_cons, hval]

/-- **The verdict is observable before authentication.** Two runs from a fresh validator under
one configuration, with the same `isPartial` flags and before `markAuthenticated`, return the same
values, all `undefined`. Yet when every list of the first is valid and some list of the second is
not, the second run calls out where the first does not: at least the debug print, and the
reporter when one is set, each with the invalid list in its message. -/
theorem validateAll_observation (config : Config) {calls₁ calls₂ : List (List Nat × Bool)}
    (hflags : calls₁.map Prod.snd = calls₂.map Prod.snd) (h₁ : firstInvalid calls₁ = none)
    (h₂ : firstInvalid calls₂ ≠ none) :
    ((validateAll config calls₁).run {}).1 = ((validateAll config calls₂).run {}).1 ∧
      ((validateAll config calls₁).run {}).2.effects ≠
        ((validateAll config calls₂).run {}).2.effects := by
  obtain ⟨g₁, hg₁⟩ := @validateAll_run config calls₁ {} rfl
  obtain ⟨g₂, hg₂⟩ := @validateAll_run config calls₂ {} rfl
  obtain ⟨list, hlist⟩ := Option.ne_none_iff_exists'.1 h₂
  have hlen : calls₁.length = calls₂.length := by simpa using congrArg List.length hflags
  rw [hg₁, hg₂]
  refine ⟨by simp [List.map_const', hlen], ?_⟩
  simp [h₁, hlist, grammarErrorEffects]

/-- A literal data packet, then two of them, both complete lists: the same `undefined`, but only
the second run prints. -/
theorem validateAll_observation_literal :
    [([literalData], false)].map Prod.snd = [([literalData, literalData], false)].map Prod.snd ∧
      firstInvalid [([literalData], false)] = none ∧
      firstInvalid [([literalData, literalData], false)] ≠ none ∧
      ((validateAll ⟨false, 2, false, 3, 224, (1, 4, 21), true, true⟩
          [([literalData], false)]).run {}).1 =
        ((validateAll ⟨false, 2, false, 3, 224, (1, 4, 21), true, true⟩
          [([literalData, literalData], false)]).run {}).1 ∧
      ((validateAll ⟨false, 2, false, 3, 224, (1, 4, 21), true, true⟩
          [([literalData], false)]).run {}).2.effects ≠
        ((validateAll ⟨false, 2, false, 3, 224, (1, 4, 21), true, true⟩
          [([literalData, literalData], false)]).run {}).2.effects :=
  have h₁ : firstInvalid [([literalData], false)] = none := by
    simp [firstInvalid, isValidOpenPGPMessage_literal]
  have h₂ : firstInvalid [([literalData, literalData], false)] ≠ none := by
    have h : isValidOpenPGPMessage [literalData, literalData] false = false := by
      rw [isValidOpenPGPMessage, isValidSignedMessage.eq_def]
      decide
    simp [firstInvalid, h]
  ⟨rfl, h₁, h₂, validateAll_observation _ rfl h₁ h₂⟩

end AsyncGrammarValidator

end OpenPgp
