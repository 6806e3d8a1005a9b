import OpenPgp.Packet.GrammarValidator

/-!
# The asynchronous validator over a whole parse

The object `getAsyncMessageGrammarValidator()` returns (`src/packet/grammar.ts:96`) is held by the
parser, which calls `messageGrammarValidatorWithLatentReporting` as packets arrive, and by the
caller that establishes integrity, which calls `markAuthenticated`. Both methods are `async` and
each call is awaited before the next, so a parse is a list of `Call`s in any order, run by
`runCalls`.

Each call is a transition of the validator, `next`, and returns what the state after it exposes,
`exposed` (`call_run`); a run is the fold of `next` and the `trace` of what it exposes
(`runCalls_run`). The promise is a cell settled once: `resolve` and `reject` do nothing on a
settled promise, so it holds the verdict of the first call that has one (`firstVerdict`).

* `runCalls_grammarCheck`: the promise after a run holds the first verdict of its calls;
* `runCalls_agree`: every value a run hands out is the promise it ends with, so no two calls see
  different verdicts;
* `runCalls_unauthenticated`: before `markAuthenticated` every call returns `undefined`;
* `runCalls_settled`: once authentication is marked and the promise has settled, every later
  call returns it;
* `runCalls_effects`: the reporter and the debug print are called once, for the first invalid
  list, wherever `markAuthenticated` falls;
* `parse_run`: over the tag lists of a message as its packets arrive, with `markAuthenticated`
  anywhere, the calls return `undefined` or the verdict of the parse, and the last one returns
  it; `streamingVerdict_eq_resolved_iff`: the verdict resolves exactly when the message is valid
  or the grammar is not enforced;
* `syncValidateAll_run`: the synchronous validator over a run throws at the first invalid list
  under `enforceGrammar`, and otherwise reports it once. On a parse, under `enforceGrammar` it
  throws exactly the rejection of the asynchronous promise (`syncValidateAll_streaming_enforced`),
  and without it calls out as the asynchronous validator does (`syncValidateAll_streaming_effects`).

The `await util.isPromisePending(...)` of each method is taken as part of its call: no other call
runs between a method's check of the promise and its return.
-/

namespace OpenPgp

namespace GrammarCheck

/-- The promise settled on an optional verdict: a settled promise keeps its value, as
`resolve` and `reject` leave it. -/
def settle : GrammarCheck → Option GrammarCheck → GrammarCheck
  | pending, some c => c
  | c, _ => c

@[simp] theorem settle_none (g : GrammarCheck) : g.settle none = g := by cases g <;> rfl

@[simp] theorem pending_settle (o : Option GrammarCheck) : pending.settle o = o.getD pending := by
  cases o <;> rfl

theorem settle_of_isSettled {g : GrammarCheck} (h : g.isSettled = true) (o : Option GrammarCheck) :
    g.settle o = g := by
  cases g
  · cases h
  all_goals rfl

theorem isSettled_settle_some {c : GrammarCheck} (hc : c.isSettled = true) (g : GrammarCheck) :
    (g.settle (some c)).isSettled = true := by
  cases g
  · exact hc
  all_goals rfl

theorem resolve_eq_settle (g : GrammarCheck) : g.resolve = g.settle (some resolved) := by
  cases g <;> rfl

theorem reject_eq_settle (message : String) (g : GrammarCheck) :
    g.reject message = g.settle (some (rejected message)) := by
  cases g <;> rfl

end GrammarCheck

namespace AsyncGrammarValidator

open GrammarCheck PacketTag

/-! ## Calls and their transitions -/

/-- A call on the object `getAsyncMessageGrammarValidator()` returns. -/
inductive Call
  /-- `markAuthenticated()`. -/
  | markAuthenticated
  /-- `messageGrammarValidatorWithLatentReporting(list, isPartial, config)`. -/
  | validate (list : List Nat) (isPartial : Bool)
deriving DecidableEq, Repr

/-- A call under the configuration of the parse. -/
def call (config : Config) : Call → StateM AsyncGrammarValidator (Option GrammarCheck)
  | .markAuthenticated => markAuthenticated
  | .validate list isPartial => messageGrammarValidatorWithLatentReporting list isPartial config

/-- Calls in turn, each awaited before the next: the values they resolve to. -/
def runCalls (config : Config) :
    List Call → StateM AsyncGrammarValidator (List (Option GrammarCheck))
  | [] => pure []
  | c :: cs => do
    let r ← call config c
    let rs ← runCalls config cs
    return r :: rs

/-- The verdict a validator call gives a pending promise: an invalid list rejects it under
`enforceGrammar`, and otherwise a complete list resolves it, valid or not. -/
def verdict (config : Config) (list : List Nat) (isPartial : Bool) : Option GrammarCheck :=
  if !isValidOpenPGPMessage list isPartial && config.enforceGrammar then
    some (.rejected (grammarErrorMessage list))
  else if isPartial then none
  else some .resolved

/-- The verdict of a call; `markAuthenticated` gives none. -/
def Call.verdict (config : Config) : Call → Option GrammarCheck
  | .markAuthenticated => none
  | .validate list isPartial => AsyncGrammarValidator.verdict config list isPartial

/-- What a call does to the validator: `markAuthenticated` sets the flag; a validator call
settles the promise on its verdict, and at its first invalid list sets `logged` and calls out. -/
def next (config : Config) (v : AsyncGrammarValidator) : Call → AsyncGrammarValidator
  | .markAuthenticated => { v with authenticated := true }
  | .validate list isPartial =>
    { v with
      grammarCheck := v.grammarCheck.settle (verdict config list isPartial)
      logged := v.logged || !isValidOpenPGPMessage list isPartial
      effects := v.effects ++
        if v.logged || isValidOpenPGPMessage list isPartial then []
        else grammarErrorEffects config list }

/-- What a method returns from the state it leaves: the promise once authentication is marked and
the promise has settled, and `undefined` (`none`) otherwise. -/
def exposed (v : AsyncGrammarValidator) : Option GrammarCheck :=
  if v.authenticated && v.grammarCheck.isSettled then some v.grammarCheck else none

/-- What the states of a run of `next` expose, one value per call. -/
def trace (config : Config) (v : AsyncGrammarValidator) : List Call → List (Option GrammarCheck)
  | [] => []
  | c :: cs => exposed (next config v c) :: trace config (next config v c) cs

/-- The first verdict of a run's calls. -/
def firstVerdict (config : Config) (cs : List Call) : Option GrammarCheck :=
  cs.findSome? (Call.verdict config)

/-- The validator calls of a run, as `(list, isPartial)`. -/
def validations : List Call → List (List Nat × Bool) :=
  List.filterMap fun
    | .markAuthenticated => none
    | .validate list isPartial => some (list, isPartial)

theorem verdict_isSettled {config : Config} {list : List Nat} {isPartial : Bool}
    {g : GrammarCheck} (h : verdict config list isPartial = some g) : g.isSettled = true := by
  unfold verdict at h
  split_ifs at h <;> cases h <;> rfl

theorem Call.verdict_isSettled {config : Config} {c : Call} {g : GrammarCheck}
    (h : c.verdict config = some g) : g.isSettled = true := by
  cases c
  · cases h
  · exact AsyncGrammarValidator.verdict_isSettled h

theorem settledPromise_run (v : AsyncGrammarValidator) :
    settledPromise.run v = (exposed v, v) := by
  unfold settledPromise exposed
  by_cases h : v.authenticated = true ∧ v.grammarCheck.isSettled = true <;> simp [h]

/-- **A call is a transition.** Each method returns what the state after its transition exposes.
-/
theorem call_run (config : Config) (v : AsyncGrammarValidator) :
    ∀ c, (call config c).run v = (exposed (next config v c), next config v c)
  | .markAuthenticated => by simp [call, markAuthenticated, settledPromise_run, next]
  | .validate list isPartial => by
    obtain ⟨grammarCheck, authenticated, logged, effects⟩ := v
    cases hval : isValidOpenPGPMessage list isPartial <;> cases he : config.enforceGrammar <;>
      cases isPartial <;> cases logged <;>
      simp [call, messageGrammarValidatorWithLatentReporting, settledPromise_run, next,
        verdict, hval, he, grammarErrorEffects, resolve_eq_settle, reject_eq_settle]

/-! ## Runs -/

/-- **A run is a fold of transitions.** `runCalls` returns the trace of `next` and leaves its
last state. -/
theorem runCalls_run (config : Config) :
    ∀ (cs : List Call) (v : AsyncGrammarValidator),
      (runCalls config cs).run v = (trace config v cs, cs.foldl (next config) v)
  | [], _ => rfl
  | c :: cs, v => by
    simp only [runCalls, StateT.run_bind, call_run, Id.bind_eq, runCalls_run config cs,
      StateT.run_pure, Id.pure_eq, trace, List.foldl_cons]

theorem trace_append (config : Config) (pre post : List Call) (v : AsyncGrammarValidator) :
    trace config v (pre ++ post) =
      trace config v pre ++ trace config (pre.foldl (next config) v) post := by
  induction pre generalizing v with
  | nil => rfl
  | cons c pre ih => simp [trace, ih]

theorem foldl_grammarCheck (config : Config) (cs : List Call) (v : AsyncGrammarValidator) :
    (cs.foldl (next config) v).grammarCheck = v.grammarCheck.settle (firstVerdict config cs) := by
  induction cs generalizing v with
  | nil => simp [firstVerdict]
  | cons c cs ih =>
    have hstep : (next config v c).grammarCheck = v.grammarCheck.settle (c.verdict config) := by
      cases c <;> simp [next, Call.verdict]
    rw [List.foldl_cons, ih, hstep]
    unfold firstVerdict
    rw [List.findSome?_cons]
    cases hc : c.verdict config with
    | none => simp
    | some g => simp [settle_of_isSettled (isSettled_settle_some (Call.verdict_isSettled hc) _)]

theorem foldl_authenticated (config : Config) (cs : List Call) (v : AsyncGrammarValidator) :
    (cs.foldl (next config) v).authenticated =
      (v.authenticated || decide (Call.markAuthenticated ∈ cs)) := by
  induction cs generalizing v with
  | nil => simp
  | cons c cs ih => cases c <;> simp [ih, next]

@[simp] theorem validations_markAuthenticated (cs : List Call) :
    validations (.markAuthenticated :: cs) = validations cs := rfl

@[simp] theorem validations_validate (list : List Nat) (isPartial : Bool) (cs : List Call) :
    validations (.validate list isPartial :: cs) = (list, isPartial) :: validations cs := rfl

theorem foldl_logged_effects (config : Config) (cs : List Call) (v : AsyncGrammarValidator) :
    (cs.foldl (next config) v).logged = (v.logged || (firstInvalid (validations cs)).isSome) ∧
      (cs.foldl (next config) v).effects = v.effects ++
        if v.logged then []
        else ((firstInvalid (validations cs)).map (grammarErrorEffects config)).getD [] := by
  induction cs generalizing v with
  | nil => simp [validations, firstInvalid]
  | cons c cs ih =>
    obtain ⟨hl, he⟩ := ih (next config v c)
    rw [List.foldl_cons, hl, he]
    cases c with
    | markAuthenticated => simp [next]
    | validate list isPartial =>
      cases hval : isValidOpenPGPMessage list isPartial <;> cases hlog : v.logged <;>
        simp [next, firstInvalid, hval, hlog, List.find?_cons]

theorem firstVerdict_isSettled {config : Config} {cs : List Call} {g : GrammarCheck}
    (h : firstVerdict config cs = some g) : g.isSettled = true := by
  obtain ⟨c, -, hc⟩ := List.exists_of_findSome?_eq_some h
  exact Call.verdict_isSettled hc

/-! ## What the calls of a run see -/

theorem trace_agree (config : Config) (cs : List Call) (v : AsyncGrammarValidator) :
    ∀ o ∈ trace config v cs, o = none ∨ o = some (cs.foldl (next config) v).grammarCheck := by
  induction cs generalizing v with
  | nil => simp [trace]
  | cons c cs ih =>
    intro o ho
    rw [trace, List.mem_cons] at ho
    rcases ho with rfl | ho
    · unfold exposed
      split
      · next h =>
        rw [List.foldl_cons, foldl_grammarCheck,
          settle_of_isSettled (Bool.and_eq_true_iff.1 h).2]
        exact .inr rfl
      · exact .inl rfl
    · exact ih _ o ho

theorem trace_unauthenticated (config : Config) (cs : List Call) {v : AsyncGrammarValidator}
    (hv : v.authenticated = false) (hm : Call.markAuthenticated ∉ cs) :
    trace config v cs = cs.map fun _ => none := by
  induction cs generalizing v with
  | nil => rfl
  | cons c cs ih =>
    cases c with
    | markAuthenticated => simp at hm
    | validate list isPartial =>
      have hv' : (next config v (.validate list isPartial)).authenticated = false := hv
      simp [trace, exposed, hv', ih hv' fun h => hm (List.mem_cons_of_mem _ h)]

theorem trace_settled (config : Config) (cs : List Call) {v : AsyncGrammarValidator}
    (ha : v.authenticated = true) (hs : v.grammarCheck.isSettled = true) :
    trace config v cs = cs.map fun _ => some v.grammarCheck := by
  induction cs generalizing v with
  | nil => rfl
  | cons c cs ih =>
    have hn : (next config v c).authenticated = true ∧
        (next config v c).grammarCheck = v.grammarCheck := by
      cases c <;> simp [next, ha, settle_of_isSettled hs]
    simp [trace, exposed, hn, hs, ih hn.1 (hn.2 ▸ hs)]

theorem trace_getLast? (config : Config) {cs : List Call} (h : cs ≠ [])
    (v : AsyncGrammarValidator) :
    (trace config v cs).getLast? = some (exposed (cs.foldl (next config) v)) := by
  induction cs generalizing v with
  | nil => contradiction
  | cons c cs ih =>
    cases cs with
    | nil => rfl
    | cons c' cs => rw [trace, List.getLast?_cons, ih (List.cons_ne_nil _ _), List.foldl_cons]; rfl

/-! ## Runs of the validator -/

/-- **The promise holds the first verdict.** After any run, the promise is what it was if it had
settled, and otherwise the verdict of the first call that has one. -/
theorem runCalls_grammarCheck (config : Config) (cs : List Call) (v : AsyncGrammarValidator) :
    ((runCalls config cs).run v).2.grammarCheck =
      v.grammarCheck.settle (firstVerdict config cs) := by
  rw [runCalls_run]
  exact foldl_grammarCheck config cs v

/-- **Every caller sees the same verdict.** Each value a run hands out, to the parser or to the
caller of `markAuthenticated`, is `undefined` or the promise the run ends with. -/
theorem runCalls_agree (config : Config) (cs : List Call) (v : AsyncGrammarValidator) :
    ∀ o ∈ ((runCalls config cs).run v).1,
      o = none ∨ o = some ((runCalls config cs).run v).2.grammarCheck := by
  rw [runCalls_run]
  exact trace_agree config cs v

theorem runCalls_agree_literal :
    some GrammarCheck.resolved = none ∨ some GrammarCheck.resolved =
      some ((runCalls reportingConfig [.validate [literalData] false, .markAuthenticated]).run
        {}).2.grammarCheck :=
  runCalls_agree reportingConfig _ {} _ (by
    simp [runCalls_run, trace, next, exposed, verdict, isValidOpenPGPMessage_literal,
      GrammarCheck.isSettled])

/-- **No verdict before authentication.** From a validator not yet authenticated, every call
before the first `markAuthenticated` returns `undefined`, whatever follows. -/
theorem runCalls_unauthenticated (config : Config) {pre : List Call} (post : List Call)
    {v : AsyncGrammarValidator} (hv : v.authenticated = false)
    (hm : Call.markAuthenticated ∉ pre) :
    ∃ rest, ((runCalls config (pre ++ post)).run v).1 = pre.map (fun _ => none) ++ rest := by
  rw [runCalls_run, trace_append, trace_unauthenticated config pre hv hm]
  exact ⟨_, rfl⟩

theorem runCalls_unauthenticated_literal :
    ∃ rest, ((runCalls reportingConfig
        ([.validate [literalData] true] ++ [.markAuthenticated])).run {}).1 =
      [Call.validate [literalData] true].map (fun _ => none) ++ rest :=
  runCalls_unauthenticated reportingConfig _ rfl (by decide)

/-- **Once authenticated and settled, every call returns the verdict.** After calls that mark
authentication and give a verdict, every later call returns the promise, settled on the first of
those verdicts unless it had settled before. -/
theorem runCalls_settled (config : Config) {pre : List Call} (post : List Call)
    (v : AsyncGrammarValidator) (ha : Call.markAuthenticated ∈ pre)
    (hs : (firstVerdict config pre).isSome) :
    ((runCalls config (pre ++ post)).run v).1 = ((runCalls config pre).run v).1 ++
      post.map fun _ => some (v.grammarCheck.settle (firstVerdict config pre)) := by
  obtain ⟨g, hg⟩ := Option.isSome_iff_exists.1 hs
  have ha' : (pre.foldl (next config) v).authenticated = true := by
    simp [foldl_authenticated, ha]
  have hs' : (pre.foldl (next config) v).grammarCheck.isSettled = true := by
    rw [foldl_grammarCheck, hg]
    exact isSettled_settle_some (firstVerdict_isSettled hg) _
  rw [runCalls_run, runCalls_run, trace_append, trace_settled config post ha' hs',
    foldl_grammarCheck]

theorem runCalls_settled_literal :
    ((runCalls reportingConfig ([.markAuthenticated, .validate [literalData] false] ++
        [.validate [literalData, literalData] false])).run {}).1 =
      ((runCalls reportingConfig [.markAuthenticated, .validate [literalData] false]).run {}).1 ++
        [Call.validate [literalData, literalData] false].map fun _ =>
          some (GrammarCheck.pending.settle (firstVerdict reportingConfig
            [.markAuthenticated, .validate [literalData] false])) :=
  runCalls_settled reportingConfig _ {} (by decide)
    (by simp [firstVerdict, Call.verdict, verdict, isValidOpenPGPMessage_literal])

/-- **The reporter and the debug print are called once.** Wherever `markAuthenticated` falls, a
run calls out only at the first invalid list among its validator calls, and only if the
validator had not logged before. -/
theorem runCalls_effects (config : Config) (cs : List Call) (v : AsyncGrammarValidator) :
    ((runCalls config cs).run v).2.logged = (v.logged || (firstInvalid (validations cs)).isSome) ∧
      ((runCalls config cs).run v).2.effects = v.effects ++
        if v.logged then []
        else ((firstInvalid (validations cs)).map (grammarErrorEffects config)).getD [] := by
  rw [runCalls_run]
  exact foldl_logged_effects config cs v

/-! ## A parse -/

/-- The verdict of a parse whose validator calls are the growing tag lists of the message `list`
(`streamingCalls`): under `enforceGrammar` the rejection at its first invalid list, if any, and
otherwise `true`. -/
def streamingVerdict (config : Config) (list : List Nat) : GrammarCheck :=
  if config.enforceGrammar then
    ((firstInvalid (streamingCalls list)).map fun l => .rejected (grammarErrorMessage l)).getD
      .resolved
  else .resolved

theorem firstVerdict_eq_findSome? (config : Config) (cs : List Call) :
    firstVerdict config cs = (validations cs).findSome? fun p => verdict config p.1 p.2 := by
  induction cs with
  | nil => rfl
  | cons c cs ih =>
    cases c <;> simp only [firstVerdict, List.findSome?_cons, Call.verdict,
      validations_markAuthenticated, validations_validate] at ih ⊢ <;> rw [ih]

/-- Over partial lists and then a complete one, the first verdict is that of the first invalid
list under `enforceGrammar`, and otherwise the complete list's `true`. -/
theorem findSome?_verdict_partial (config : Config) (list : List Nat) :
    ∀ ps : List (List Nat × Bool), (∀ p ∈ ps, p.2 = true) →
      (ps ++ [(list, false)]).findSome? (fun p => verdict config p.1 p.2) =
        some (if config.enforceGrammar then
          ((firstInvalid (ps ++ [(list, false)])).map fun l =>
            .rejected (grammarErrorMessage l)).getD .resolved
        else .resolved)
  | [], _ => by
    cases he : config.enforceGrammar <;> cases hval : isValidOpenPGPMessage list false <;>
      simp [verdict, firstInvalid, he, hval]
  | (l, p) :: ps, h => by
    obtain rfl : p = true := h _ (List.mem_cons_self _ _)
    rw [List.cons_append, List.findSome?_cons,
      findSome?_verdict_partial config list ps fun q hq => h q (List.mem_cons_of_mem _ hq)]
    cases he : config.enforceGrammar <;> cases hval : isValidOpenPGPMessage l true <;>
      simp [verdict, firstInvalid, he, hval, List.find?_cons]

theorem firstVerdict_streaming (config : Config) {list : List Nat} {cs : List Call}
    (hv : validations cs = streamingCalls list) :
    firstVerdict config cs = some (streamingVerdict config list) := by
  rw [firstVerdict_eq_findSome?, hv, streamingCalls, findSome?_verdict_partial]
  · rfl
  · simp

theorem streamingVerdict_isSettled (config : Config) (list : List Nat) :
    (streamingVerdict config list).isSettled = true := by
  unfold streamingVerdict
  split
  · cases firstInvalid (streamingCalls list) <;> rfl
  · rfl

/-- **A parse hands out its verdict.** Over any interleaving of `markAuthenticated` with the
validator calls of a message as its packets arrive, from a fresh validator: every call returns
`undefined` or the verdict of the parse, the last call returns the verdict, and the calls out are
those of the first invalid list, if any. -/
theorem parse_run (config : Config) {list : List Nat} {cs : List Call}
    (hv : validations cs = streamingCalls list) (ha : Call.markAuthenticated ∈ cs) :
    (∀ o ∈ ((runCalls config cs).run {}).1, o = none ∨ o = some (streamingVerdict config list)) ∧
      ((runCalls config cs).run {}).1.getLast? = some (some (streamingVerdict config list)) ∧
      ((runCalls config cs).run {}).2.effects =
        ((firstInvalid (streamingCalls list)).map (grammarErrorEffects config)).getD [] := by
  have hg : (cs.foldl (next config) {}).grammarCheck = streamingVerdict config list := by
    rw [foldl_grammarCheck, firstVerdict_streaming config hv]
    rfl
  rw [runCalls_run]
  refine ⟨fun o ho => hg ▸ trace_agree config cs {} o ho, ?_, ?_⟩
  · rw [trace_getLast? config (List.ne_nil_of_mem ha), exposed, foldl_authenticated, hg]
    simp [ha, streamingVerdict_isSettled]
  · rw [(foldl_logged_effects config cs {}).2, hv]
    simp

theorem parse_run_literal :
    (∀ o ∈ ((runCalls reportingConfig [.validate [literalData] true, .markAuthenticated,
        .validate [literalData] false]).run {}).1,
        o = none ∨ o = some (streamingVerdict reportingConfig [literalData])) ∧
      ((runCalls reportingConfig [.validate [literalData] true, .markAuthenticated,
        .validate [literalData] false]).run {}).1.getLast? =
        some (some (streamingVerdict reportingConfig [literalData])) ∧
      ((runCalls reportingConfig [.validate [literalData] true, .markAuthenticated,
        .validate [literalData] false]).run {}).2.effects =
        ((firstInvalid (streamingCalls [literalData])).map
          (grammarErrorEffects reportingConfig)).getD [] :=
  parse_run reportingConfig rfl (by decide)

theorem firstInvalid_streamingCalls_eq_none_iff {list : List Nat} :
    firstInvalid (streamingCalls list) = none ↔ isValidOpenPGPMessage list false = true := by
  simp only [firstInvalid, Option.map_eq_none', List.find?_eq_none, Bool.not_eq_true',
    Bool.not_eq_false]
  exact ⟨fun h => by simpa using h (list, false) (by simp [streamingCalls]),
    fun h c hc => by simp [streamingCalls_valid h c hc]⟩

/-- **The verdict of a parse.** It resolves exactly when the grammar is not enforced or the
message's complete tag list is valid, and otherwise rejects at the first invalid list. -/
theorem streamingVerdict_eq_resolved_iff (config : Config) (list : List Nat) :
    streamingVerdict config list = .resolved ↔
      config.enforceGrammar = false ∨ isValidOpenPGPMessage list false = true := by
  unfold streamingVerdict
  cases config.enforceGrammar
  · simp
  · rw [← firstInvalid_streamingCalls_eq_none_iff]
    cases firstInvalid (streamingCalls list) <;> simp

end AsyncGrammarValidator

/-! ## The two validators on one parse -/

open AsyncGrammarValidator PacketTag

/-- A call of the synchronous validator: nothing on a valid list; on an invalid one, under
`enforceGrammar` the report and the `GrammarError`, and otherwise, once, the report and the debug
print. -/
theorem syncMessageGrammarValidator_run (list : List Nat) (acceptPartial : Bool) (config : Config)
    (v : SyncGrammarValidator) :
    (syncMessageGrammarValidator list acceptPartial config).run v =
      if isValidOpenPGPMessage list acceptPartial then .ok () v
      else if config.enforceGrammar then
        .error (grammarErrorMessage list)
          { v with effects := v.effects ++ reportGrammarError config (grammarErrorMessage list) }
      else .ok ()
        { v with
          logged := true
          effects := v.effects ++ if v.logged then [] else grammarErrorEffects config list } := by
  obtain ⟨logged, effects⟩ := v
  cases hval : isValidOpenPGPMessage list acceptPartial <;> cases he : config.enforceGrammar <;>
    cases logged <;> simp [syncMessageGrammarValidator, hval, he, grammarErrorEffects] <;> rfl

/-- **A run of the synchronous validator.** Under `enforceGrammar` it throws at the first invalid
list, after reporting it; otherwise it returns, and reports and prints the first invalid list
unless it had logged before. -/
theorem syncValidateAll_run (config : Config) :
    ∀ (calls : List (List Nat × Bool)) (v : SyncGrammarValidator),
      (syncValidateAll config calls).run v =
        if config.enforceGrammar then
          match firstInvalid calls with
          | none => .ok () v
          | some l =>
            .error (grammarErrorMessage l)
              { v with effects := v.effects ++ reportGrammarError config (grammarErrorMessage l) }
        else .ok ()
          { v with
            logged := v.logged || (firstInvalid calls).isSome
            effects := v.effects ++
              if v.logged then []
              else ((firstInvalid calls).map (grammarErrorEffects config)).getD [] }
  | [], ⟨logged, effects⟩ => by cases config.enforceGrammar <;> simp [firstInvalid] <;> rfl
  | (list, acceptPartial) :: calls, v => by
    show EStateM.bind _ (fun _ => syncValidateAll config calls) v = _
    have hstep : syncMessageGrammarValidator list acceptPartial config v = _ :=
      syncMessageGrammarValidator_run list acceptPartial config v
    have ih : ∀ v, syncValidateAll config calls v = _ := syncValidateAll_run config calls
    simp only [EStateM.bind, hstep]
    cases hval : isValidOpenPGPMessage list acceptPartial <;> cases he : config.enforceGrammar <;>
      cases hl : v.logged <;>
      simp [hval, he, hl, firstInvalid, List.find?_cons, ih]


/-- **Under `enforceGrammar` the two validators agree on a parse.** Over the growing tag lists of a
message, the synchronous validator throws exactly the message the asynchronous promise is rejected
with, after reporting it, and returns without a trace exactly when the promise resolves. -/
theorem syncValidateAll_streaming_enforced (config : Config) (he : config.enforceGrammar = true)
    (list : List Nat) (v : SyncGrammarValidator) :
    (syncValidateAll config (streamingCalls list)).run v =
      match streamingVerdict config list with
      | .rejected message =>
        .error message { v with effects := v.effects ++ reportGrammarError config message }
      | _ => .ok () v := by
  rw [syncValidateAll_run, streamingVerdict, he, if_pos rfl, if_pos rfl]
  cases firstInvalid (streamingCalls list) <;> rfl

theorem syncValidateAll_streaming_enforced_literal :
    (syncValidateAll reportingConfig (streamingCalls [literalData, literalData])).run {} =
      match streamingVerdict reportingConfig [literalData, literalData] with
      | .rejected message =>
        .error message { effects := reportGrammarError reportingConfig message }
      | _ => .ok () {} :=
  syncValidateAll_streaming_enforced reportingConfig rfl _ {}

/-- **Without `enforceGrammar` the two validators call out alike.** Over the growing tag lists of a
message, the synchronous validator returns, and it makes the calls out that the asynchronous
validator makes over any interleaving of the same calls with `markAuthenticated`. -/
theorem syncValidateAll_streaming_effects (config : Config) (he : config.enforceGrammar = false)
    {list : List Nat} {cs : List Call} (hv : validations cs = streamingCalls list) :
    (syncValidateAll config (streamingCalls list)).run {} =
      .ok () { logged := (firstInvalid (streamingCalls list)).isSome,
               effects := ((runCalls config cs).run {}).2.effects } := by
  rw [syncValidateAll_run, he, runCalls_run, (foldl_logged_effects config cs {}).2, hv]
  simp

theorem syncValidateAll_streaming_effects_literal :
    (syncValidateAll { reportingConfig with enforceGrammar := false }
        (streamingCalls [literalData])).run {} =
      .ok () { logged := (firstInvalid (streamingCalls [literalData])).isSome,
               effects := ((runCalls { reportingConfig with enforceGrammar := false }
                 [.validate [literalData] true, .markAuthenticated,
                  .validate [literalData] false]).run
                 {}).2.effects } :=
  syncValidateAll_streaming_effects _ rfl rfl

end OpenPgp
