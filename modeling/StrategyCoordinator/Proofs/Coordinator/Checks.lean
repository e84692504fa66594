import StrategyCoordinator.Proofs.Coordinator.Wiring
import StrategyCoordinator.Proofs.Options.Validity

/-!
# The checks of the configuration, in order

A call looks at a few options, one check after another, and is refused with the error of the first
check that fails. A check sees nothing of the store but the value held under one name. Which checks
there are depends on the strategy, and for the trust-region strategy on whether the coordinator has
a model: the options of the approximation are looked at only if one has to be built.

Names that are not looked at do not matter. Two stores that hold the same values under the names
that are looked at lead to the same error, or to the same request.
-/

namespace StrategyCoordinator

/-- The text that a value holds, if it holds one. -/
def OptionValue.word? : OptionValue → Option String
  | .str text => text
  | .choice text => some text
  | _ => none

namespace OptionStore

variable {store store' : OptionStore} {name : String}

/-- The value that is held under a name. -/
def value? (store : OptionStore) (name : String) : Option OptionValue :=
  (store.entry? name).map OptionEntry.value

/-- The text that is held under a name. -/
def word? (store : OptionStore) (name : String) : Option String :=
  (store.value? name).bind OptionValue.word?

/-- The strategy whose word is held as the selection. -/
def selected? (store : OptionStore) : Option Algorithm :=
  (store.word? OptionName.algorithm).bind Algorithm.parse?

/-- Nothing but the held value is looked at when a text is read. -/
theorem getStr_eq (store : OptionStore) (name : String) :
    store.getStr name = match store.value? name with
      | none => .error (.unknownOption name)
      | some (.str text) => .ok text
      | some (.choice text) => .ok (some text)
      | some _ => .error (.typeMismatch name .string) := by
  unfold value?
  cases hentry : store.entry? name with
  | none => rw [getStr, lookup, hentry]; rfl
  | some entry =>
    rw [getStr_of_find? hentry]
    cases hvalue : entry.value <;> simp [hvalue]

/-- Nothing but the held value is looked at when a text is read that must be there. -/
theorem getChoice_eq (store : OptionStore) (name : String) :
    store.getChoice name = match store.value? name with
      | none => .error (.unknownOption name)
      | some (.str none) => .error (.unset name)
      | some (.str (some text)) => .ok text
      | some (.choice text) => .ok text
      | some _ => .error (.typeMismatch name .string) := by
  rw [getChoice, getStr_eq]
  cases hvalue : store.value? name with
  | none => rfl
  | some value =>
    cases value with
    | str text => cases text <;> rfl
    | bool | int | float | choice => rfl

/-- Nothing but the held value is looked at when an integer is read. -/
theorem getInt_eq (store : OptionStore) (name : String) :
    store.getInt name = match store.value? name with
      | none => .error (.unknownOption name)
      | some (.int n) => .ok n
      | some _ => .error (.typeMismatch name .integer) := by
  unfold value?
  cases hentry : store.entry? name with
  | none => rw [getInt, lookup, hentry]; rfl
  | some entry =>
    rw [getInt_of_find? hentry]
    cases hvalue : entry.value <;> simp [hvalue]

end OptionStore

/-- A check of one option: a name, and the error that the value held under it gives, if any. -/
structure ConfigurationCheck where
  name : String
  failure? : Option OptionValue → Option OptimizerError

namespace ConfigurationCheck

/-- The option is registered. -/
def registered (name : String) : ConfigurationCheck where
  name
  failure?
    | none => some (.option (.unknownOption name))
    | some _ => none

/-- The option, if it is registered, holds a text or a choice. -/
def textual (name : String) : ConfigurationCheck where
  name
  failure?
    | some (.bool _) | some (.int _) | some (.float _) =>
      some (.option (.typeMismatch name .string))
    | _ => none

/-- The option does not hold the text that is none. -/
def given (name : String) : ConfigurationCheck where
  name
  failure?
    | some (.str none) => some (.option (.unset name))
    | _ => none

/-- The text that the option holds, if it holds one, is a known word. -/
def known {α : Type} (name : String) (parse? : String → Option α)
    (unknown : String → OptimizerError) : ConfigurationCheck where
  name
  failure? held :=
    (held.bind OptionValue.word?).bind fun text =>
      if (parse? text).isSome then none else some (unknown text)

/-- The option, if it is registered, holds an integer. -/
def integral (name : String) : ConfigurationCheck where
  name
  failure?
    | none | some (.int _) => none
    | some _ => some (.option (.typeMismatch name .integer))

/-- The integer that the option holds, if it holds one, is a size. -/
def size (name : String) : ConfigurationCheck where
  name
  failure?
    | some (.int n) => if n.toInt < 0 then some (.invalidSubspaceSize n) else none
    | _ => none

/-- The checks of an option that must hold a known word. -/
def word {α : Type} (name : String) (parse? : String → Option α)
    (unknown : String → OptimizerError) : List ConfigurationCheck :=
  [registered name, textual name, given name, known name parse? unknown]

/-- The checks of the selected strategy. -/
def strategy : List ConfigurationCheck :=
  word OptionName.algorithm Algorithm.parse? .unknownAlgorithm

/-- The checks of the strategy look at one name. -/
theorem name_of_mem_strategy {check : ConfigurationCheck} (h : check ∈ strategy) :
    check.name = OptionName.algorithm := by
  simp only [strategy, word, List.mem_cons, List.not_mem_nil, or_false] at h
  rcases h with rfl | rfl | rfl | rfl <;> rfl

/-- The checks of the kind of the curvature approximation. -/
def approximation : List ConfigurationCheck :=
  word OptionName.quasiNewtonKind QuasiNewtonKind.parse? .unknownQuasiNewtonKind

/-- The checks of the size of the curvature approximation. -/
def subspace : List ConfigurationCheck :=
  [registered OptionName.subspaceSize, integral OptionName.subspaceSize,
    size OptionName.subspaceSize]

end ConfigurationCheck

namespace OptionStore

/-- The error of the first check that a store fails. -/
def firstFailure? (store : OptionStore) (checks : List ConfigurationCheck) :
    Option OptimizerError :=
  checks.findSome? fun check => check.failure? (store.value? check.name)

/-- The names that are looked at by checks that end at the first failure. -/
def namesRead (store : OptionStore) : List ConfigurationCheck → List String
  | [] => []
  | check :: rest =>
    check.name ::
      if (check.failure? (store.value? check.name)).isSome then [] else store.namesRead rest

variable {store : OptionStore} {name : String}

/-- A name that is looked at is the name of a check. -/
theorem exists_check_of_mem_namesRead {checks : List ConfigurationCheck}
    (h : name ∈ store.namesRead checks) : ∃ check ∈ checks, check.name = name := by
  induction checks with
  | nil => cases h
  | cons check rest ih =>
    rcases List.mem_cons.mp h with rfl | hrest
    · exact ⟨check, List.mem_cons_self, rfl⟩
    · split at hrest
      · cases hrest
      · obtain ⟨found, hfound, hname⟩ := ih hrest
        exact ⟨found, List.mem_cons_of_mem _ hfound, hname⟩

/-- What is checked later counts only if nothing failed before. -/
theorem firstFailure?_append (store : OptionStore) (first second : List ConfigurationCheck) :
    store.firstFailure? (first ++ second) =
      (store.firstFailure? first).or (store.firstFailure? second) :=
  List.findSome?_append

/-- The text that is held is the one that is read. -/
theorem word?_eq (store : OptionStore) (name : String) :
    store.word? name = (store.getChoice name).toOption := by
  rw [word?, getChoice_eq]
  cases store.value? name with
  | none => rfl
  | some value =>
    cases value with
    | str text => cases text <;> rfl
    | bool | int | float | choice => rfl

/-- The checks of a word fail as reading the word does: the text cannot be read, or the reader
refuses it because it is not known. -/
theorem firstFailure?_word {α : Type} (store : OptionStore) (name : String)
    {parse? : String → Option α} {unknown : String → OptimizerError}
    {read : String → Except OptimizerError α}
    (hread : ∀ text, errorOf? (read text) =
      if (parse? text).isSome then none else some (unknown text)) :
    store.firstFailure? (ConfigurationCheck.word name parse? unknown) =
      errorOf? (liftError (store.getChoice name) >>= read) := by
  rw [getChoice_eq]
  simp only [firstFailure?, ConfigurationCheck.word, List.findSome?_cons,
    ConfigurationCheck.registered, ConfigurationCheck.textual, ConfigurationCheck.given,
    ConfigurationCheck.known, List.findSome?_nil]
  cases store.value? name with
  | none => rfl
  | some value =>
    cases value with
    | bool | int | float => rfl
    | str text =>
      cases text with
      | none => rfl
      | some text =>
        change _ = errorOf? (read text)
        rw [hread]
        cases hparse : parse? text <;> simp [OptionValue.word?, hparse]
    | choice text =>
      change _ = errorOf? (read text)
      rw [hread]
      cases hparse : parse? text <;> simp [OptionValue.word?, hparse]

/-- The checks of the size fail as reading the integer does, and if it is negative. -/
theorem firstFailure?_subspace (store : OptionStore) :
    store.firstFailure? ConfigurationCheck.subspace =
      match store.getInt OptionName.subspaceSize with
      | .error e => some (.option e)
      | .ok n => if n.toInt < 0 then some (.invalidSubspaceSize n) else none := by
  rw [getInt_eq]
  simp only [firstFailure?, ConfigurationCheck.subspace, List.findSome?_cons,
    ConfigurationCheck.registered, ConfigurationCheck.integral, ConfigurationCheck.size,
    List.findSome?_nil]
  cases store.value? OptionName.subspaceSize with
  | none => rfl
  | some value =>
    cases value with
    | int n => by_cases hn : n.toInt < 0 <;> simp [hn]
    | bool | float | str | choice => rfl

/-- The strategy is read exactly if a known word is held. -/
theorem readAlgorithm_eq_ok_iff_selected {store : OptionStore} {algorithm : Algorithm} :
    store.readAlgorithm = .ok algorithm ↔ store.selected? = some algorithm := by
  rw [readAlgorithm_eq_ok, selected?, word?_eq]
  cases store.getChoice OptionName.algorithm <;> simp [Except.toOption]

/-- Reading the strategy fails with its first check that fails. -/
theorem errorOf?_readAlgorithm (store : OptionStore) :
    errorOf? store.readAlgorithm = store.firstFailure? ConfigurationCheck.strategy :=
  (store.firstFailure?_word OptionName.algorithm Algorithm.errorOf?_read).symm

/-- Reading the checkpoint file gives the text that is held, unless its check fails. -/
theorem readCheckpoint_eq (store : OptionStore) :
    store.readCheckpoint =
      match store.firstFailure? [ConfigurationCheck.textual OptionName.checkpointFile] with
      | some e => .error e
      | none => .ok (store.word? OptionName.checkpointFile) := by
  rw [readCheckpoint, getStr_eq, word?]
  simp only [firstFailure?, List.findSome?_cons, ConfigurationCheck.textual, List.findSome?_nil]
  cases store.value? OptionName.checkpointFile with
  | none => rfl
  | some value => cases value <;> rfl

/-- Reading the kind and size of the approximation fails with the first check that fails. -/
theorem errorOf?_readQuasiNewton (store : OptionStore) :
    errorOf? store.readQuasiNewton = store.firstFailure?
      (ConfigurationCheck.approximation ++ ConfigurationCheck.subspace) := by
  rw [firstFailure?_append, ConfigurationCheck.approximation,
    firstFailure?_word store _ QuasiNewtonKind.errorOf?_read, readQuasiNewton, ← bind_assoc]
  -- Whatever kind was read, the size is read and checked in the same way.
  refine errorOf?_bind fun kind => ?_
  rw [firstFailure?_subspace]
  cases store.getInt OptionName.subspaceSize with
  | error e => rfl
  | ok n =>
    show errorOf? (if n.toInt < 0 then _ else _) = if n.toInt < 0 then _ else _
    by_cases hn : n.toInt < 0
    · rw [if_pos hn, if_pos hn]
      rfl
    · rw [if_neg hn, if_neg hn]
      rfl

/-- Stores that hold the same values under the given names. -/
def AgreeOn (names : List String) (store store' : OptionStore) : Prop :=
  ∀ name ∈ names, store'.value? name = store.value? name

section Agreement

variable {store' : OptionStore}

/-- Checks look only at the names that are read. -/
theorem firstFailure?_congr {checks : List ConfigurationCheck}
    (h : AgreeOn (store.namesRead checks) store store') :
    store'.firstFailure? checks = store.firstFailure? checks := by
  induction checks with
  | nil => rfl
  | cons check rest ih =>
    have hname : store'.value? check.name = store.value? check.name :=
      h check.name List.mem_cons_self
    rw [firstFailure?, firstFailure?, List.findSome?_cons, List.findSome?_cons, hname]
    cases hfailure : check.failure? (store.value? check.name) with
    | some e => rfl
    | none =>
      refine ih fun name hmem => h name (List.mem_cons_of_mem _ ?_)
      rwa [hfailure]

/-- Checks that are passed are read to their end, and then the checks after them. -/
theorem namesRead_append {first second : List ConfigurationCheck}
    (h : store.firstFailure? first = none) :
    store.namesRead (first ++ second) =
      first.map ConfigurationCheck.name ++ store.namesRead second := by
  induction first with
  | nil => rfl
  | cons check rest ih =>
    rw [firstFailure?, List.findSome?_cons] at h
    cases hfailure : check.failure? (store.value? check.name) with
    | some e =>
      rw [hfailure] at h
      cases h
    | none =>
      rw [hfailure] at h
      rw [List.cons_append, namesRead, hfailure, List.map_cons, List.cons_append, ← ih h]
      rfl

/-- Reading a text looks at the held value only. -/
theorem getChoice_congr (h : store'.value? name = store.value? name) :
    store'.getChoice name = store.getChoice name := by
  rw [getChoice_eq, getChoice_eq, h]

/-- Reading the kind and size of the approximation looks only at the names that are read. -/
theorem readQuasiNewton_congr
    (h : AgreeOn (store.namesRead
      (ConfigurationCheck.approximation ++ ConfigurationCheck.subspace)) store store') :
    store'.readQuasiNewton = store.readQuasiNewton := by
  cases hkind : store.firstFailure? ConfigurationCheck.approximation with
  | some e =>
    -- The kind cannot be read, so the size is not looked at, and the error is all that there is.
    have hfailure := store.errorOf?_readQuasiNewton
    rw [firstFailure?_append, hkind, Option.some_or] at hfailure
    have hfailure' := firstFailure?_congr h
    rw [← errorOf?_readQuasiNewton, ← errorOf?_readQuasiNewton, hfailure] at hfailure'
    rw [errorOf?_eq_some.mp hfailure, errorOf?_eq_some.mp hfailure']
  | none =>
    rw [namesRead_append hkind] at h
    have hword : store'.getChoice OptionName.quasiNewtonKind =
        store.getChoice OptionName.quasiNewtonKind :=
      getChoice_congr (h _ (List.mem_append_left _ List.mem_cons_self))
    have hvalue : store'.value? OptionName.subspaceSize = store.value? OptionName.subspaceSize :=
      h _ (List.mem_append_right _ List.mem_cons_self)
    rw [readQuasiNewton, readQuasiNewton, hword, getInt_eq, getInt_eq, hvalue]

end Agreement

end OptionStore

variable {R : Type} {kit : SolverKit R}

namespace Session

/-- The checks of a call, in order. -/
def checks (s : Session kit) : List ConfigurationCheck :=
  ConfigurationCheck.strategy ++
    match s.options.selected? with
    | none | some .movingAsymptotes => []
    | some .interiorPoint => [.textual OptionName.checkpointFile]
    | some .trustRegion =>
      if s.subproblem.isSome then []
      else ConfigurationCheck.approximation ++ ConfigurationCheck.subspace

/-- The names that a call looks at. -/
def namesRead (s : Session kit) : List String :=
  s.options.namesRead s.checks

/-- The error of the first check of a call that fails. -/
def firstFailure? (s : Session kit) : Option OptimizerError :=
  s.options.firstFailure? s.checks

/-- What a call asks for once its checks are passed. -/
def requested? (s : Session kit) : Option Request :=
  s.options.selected?.map fun
    | .interiorPoint => .interiorPoint (s.options.word? OptionName.checkpointFile)
    | .trustRegion => .trustRegion (s.subproblem.getD s.workshop.nextSerial)
    | .movingAsymptotes => .asymptotes

variable [Scalar R]

/-- Making sure of a model fails with the first check of the approximation that fails, if there is
no model yet. -/
theorem errorOf?_ensureSubproblem (s : Session kit) :
    errorOf? s.ensureSubproblem = s.options.firstFailure?
      (if s.subproblem.isSome then []
        else ConfigurationCheck.approximation ++ ConfigurationCheck.subspace) := by
  rw [ensureSubproblem]
  cases s.subproblem with
  | some handle => rfl
  | none =>
    show errorOf? (s.options.readQuasiNewton >>= _ >>= _) = s.options.firstFailure? (_ ++ _)
    rw [← OptionStore.errorOf?_readQuasiNewton]
    cases s.options.readQuasiNewton <;> rfl

/-- Resolving fails with the first check that fails. -/
theorem errorOf?_resolve (s : Session kit) : errorOf? s.resolve = s.firstFailure? := by
  have hstrategy := s.options.errorOf?_readAlgorithm
  rw [firstFailure?, checks, OptionStore.firstFailure?_append, ← hstrategy, resolve]
  cases hread : s.options.readAlgorithm with
  | error e => rfl
  | ok algorithm =>
    rw [OptionStore.readAlgorithm_eq_ok_iff_selected.mp hread]
    cases algorithm with
    | movingAsymptotes => rfl
    | interiorPoint =>
      show errorOf? (s.options.readCheckpoint >>= _) = s.options.firstFailure? [_]
      rw [s.options.readCheckpoint_eq]
      cases s.options.firstFailure? [.textual OptionName.checkpointFile] <;> rfl
    | trustRegion =>
      show errorOf? (s.ensureSubproblem >>= _) = s.options.firstFailure? (if _ then _ else _)
      rw [← s.errorOf?_ensureSubproblem]
      cases s.ensureSubproblem <;> rfl

/-- What the configuration is resolved to is what the call asks for. -/
theorem requested_of_resolve {s resolved : Session kit} {request : Request}
    (h : s.resolve = .ok (request, resolved)) : s.requested? = some request := by
  obtain ⟨algorithm, hread, h⟩ := bind_eq_ok.mp h
  rw [requested?, OptionStore.readAlgorithm_eq_ok_iff_selected.mp hread]
  cases algorithm with
  | movingAsymptotes =>
    cases h
    rfl
  | interiorPoint =>
    obtain ⟨checkpoint, hcheckpoint, h⟩ := bind_eq_ok.mp h
    cases h
    rw [s.options.readCheckpoint_eq] at hcheckpoint
    split at hcheckpoint
    next => cases hcheckpoint
    next =>
      cases hcheckpoint
      rfl
  | trustRegion =>
    obtain ⟨⟨handle, ensured⟩, hensured, h⟩ := bind_eq_ok.mp h
    cases h
    rcases ensureSubproblem_cases hensured with ⟨-, hown⟩ | ⟨hown, rfl, -⟩ <;>
      rw [hown] <;> rfl

/-- With options that agree on the names that are read, making sure of a model fails with the same
error or finds or builds the same model. -/
theorem ensureSubproblem_congr (s : Session kit) {options : OptionStore}
    (h : OptionStore.AgreeOn (s.options.namesRead (if s.subproblem.isSome then []
      else ConfigurationCheck.approximation ++ ConfigurationCheck.subspace)) s.options options) :
    { s with options }.ensureSubproblem =
      s.ensureSubproblem.map fun (handle, ensured) => (handle, { ensured with options }) := by
  obtain ⟨workshop, before, backends, subproblem, held⟩ := s
  cases subproblem with
  | some handle => rfl
  | none =>
    have hread : options.readQuasiNewton = before.readQuasiNewton :=
      OptionStore.readQuasiNewton_congr h
    simp only [ensureSubproblem, Workshop.buildConfiguredSubproblem, hread]
    cases before.readQuasiNewton <;> rfl

/-- With options that agree on the names that are read, the configuration is resolved to the same
error or to the same request, and the same model is built. -/
theorem resolve_congr (s : Session kit) {options : OptionStore}
    (h : OptionStore.AgreeOn s.namesRead s.options options) :
    { s with options }.resolve =
      s.resolve.map fun (request, resolved) => (request, { resolved with options }) := by
  have hword : options.getChoice OptionName.algorithm =
      s.options.getChoice OptionName.algorithm :=
    OptionStore.getChoice_congr (h _ List.mem_cons_self)
  have hread : options.readAlgorithm = s.options.readAlgorithm := by
    rw [OptionStore.readAlgorithm, OptionStore.readAlgorithm, hword]
  have hpassed := s.options.errorOf?_readAlgorithm
  rw [namesRead, checks] at h
  simp only [resolve, hread]
  cases hselected : s.options.readAlgorithm with
  | error e => rfl
  | ok algorithm =>
    rw [hselected] at hpassed
    rw [OptionStore.readAlgorithm_eq_ok_iff_selected.mp hselected,
      OptionStore.namesRead_append hpassed.symm] at h
    cases algorithm with
    | movingAsymptotes => rfl
    | interiorPoint =>
      have hvalue : options.value? OptionName.checkpointFile =
          s.options.value? OptionName.checkpointFile :=
        h _ (List.mem_append_right _ List.mem_cons_self)
      have hcheckpoint : options.readCheckpoint = s.options.readCheckpoint := by
        rw [OptionStore.readCheckpoint, OptionStore.readCheckpoint, OptionStore.getStr_eq,
          OptionStore.getStr_eq, hvalue]
      show (options.readCheckpoint >>= _) = Except.map _ (s.options.readCheckpoint >>= _)
      rw [hcheckpoint]
      cases s.options.readCheckpoint <;> rfl
    | trustRegion =>
      have hensured := s.ensureSubproblem_congr fun name hmem =>
        h name (List.mem_append_right _ hmem)
      show ({ s with options }.ensureSubproblem >>= _) = Except.map _ (s.ensureSubproblem >>= _)
      rw [hensured]
      cases s.ensureSubproblem <;> rfl

/-- Running an interior-point backend on its own is a solve with the checkpoint file. -/
theorem runBackends_interiorPoint {s : Session kit} {ip : LiveInteriorPoint kit}
    (h : s.backends = .interiorPoint ip) (condition : kit.Condition)
    (checkpoint : Option String) :
    let solved := Workshop.solve condition checkpoint s.workshop ip
    s.runBackends condition checkpoint =
      ({ s with workshop := solved.1, backends := .interiorPoint solved.2.1 }, solved.2.2) := by
  rw [runBackends, h]

/-- A call of the interior-point strategy runs the interior-point backend with the checkpoint file
of the request, and enters that after the discarding and building. -/
theorem optimize_interiorPoint {s resolved : Session kit} {checkpoint : Option String}
    (h : s.resolve = .ok (.interiorPoint checkpoint, resolved)) (condition : kit.Condition) :
    ∃ (w : Workshop kit) (ip : LiveInteriorPoint kit),
      let solved := Workshop.solve condition checkpoint w ip
      (s.optimize condition).1.backends = .interiorPoint solved.2.1 ∧
        (s.optimize condition).2 = solved.2.2.mapError .backend ∧
        (s.optimize condition).1.events = s.events ++
          (s.transitionEntries (.interiorPoint checkpoint)).events ++
            .ran (.interiorPoint ip.target.kind) ip.serial ::
              (checkpoint.map .checkpoint).toList := by
  obtain ⟨-, ⟨rfl, -⟩ | ⟨-, hrequest, -⟩⟩ := resolve_cases h
  · obtain ⟨-, -, -, -, -, -, hjournal⟩ :=
      (resolved.log (.started .interiorPoint resolved.state)).transition_aligned
        (.interiorPoint checkpoint)
    have hstate := (resolved.log (.started .interiorPoint resolved.state)).transition_algorithm?
      (.interiorPoint checkpoint)
    simp only [optimize, h, Request.algorithm, Request.checkpoint]
    generalize (resolved.log (.started .interiorPoint resolved.state)).transition
      (.interiorPoint checkpoint) = aligned at hjournal hstate ⊢
    obtain ⟨ip, hip⟩ : ∃ ip, aligned.backends = .interiorPoint ip := by
      rw [state] at hstate
      cases hbackends : aligned.backends with
      | interiorPoint ip => exact ⟨ip, rfl⟩
      | uninitialized | trustRegion | asymptotes =>
        rw [hbackends] at hstate
        cases hstate
    have hsolve := Workshop.solve_journal condition checkpoint aligned.workshop ip
    rw [runBackends_interiorPoint hip]
    refine ⟨aligned.workshop, ip, ?_⟩
    generalize Workshop.solve condition checkpoint aligned.workshop ip = solved at hsolve ⊢
    obtain ⟨w, after, outcome⟩ := solved
    have hran : Journal.events (.event (.ran ip.label.1 ip.label.2) ::
        (checkpoint.map fun path => .event (.checkpoint path)).toList) =
        .ran (.interiorPoint ip.target.kind) ip.serial ::
          (checkpoint.map .checkpoint).toList := by
      cases checkpoint <;> rfl
    have hevents : w.journal.events = resolved.events ++
        (resolved.transitionEntries (.interiorPoint checkpoint)).events ++
          .ran (.interiorPoint ip.target.kind) ip.serial ::
            (checkpoint.map .checkpoint).toList := by
      rw [hsolve, hjournal, Journal.events_append, Journal.events_append, hran]
      exact congrArg (· ++ _ ++ _) (resolved.events_log _)
    cases outcome with
    | error failure => exact ⟨rfl, rfl, hevents⟩
    | ok => exact ⟨rfl, rfl, (events_log _ _).trans hevents⟩
  · cases hrequest

/-- The configuration is resolved to a request exactly if no check fails and the request is what the
call asks for. -/
theorem exists_resolve_iff (s : Session kit) (request : Request) :
    (∃ resolved, s.resolve = .ok (request, resolved)) ↔
      s.firstFailure? = none ∧ s.requested? = some request := by
  have hfailure := s.errorOf?_resolve
  constructor
  · rintro ⟨resolved, hresolve⟩
    rw [hresolve] at hfailure
    exact ⟨hfailure.symm, requested_of_resolve hresolve⟩
  · rintro ⟨hnone, hrequested⟩
    obtain ⟨⟨found, resolved⟩, hresolve⟩ := errorOf?_eq_none.mp (hfailure.trans hnone)
    have hfound := (requested_of_resolve hresolve).symm.trans hrequested
    exact ⟨resolved, Option.some.inj hfound ▸ hresolve⟩

/-- A call is answered with an error of the configuration exactly if that is the error of the first
check that fails. -/
theorem refused_with_iff (s : Session kit) (condition : kit.Condition) (e : OptimizerError) :
    (s.optimize condition).2 = .error e ∧ e.isConfigurationError = true ↔
      s.firstFailure? = some e := by
  rw [← s.errorOf?_resolve, errorOf?_eq_some]
  constructor
  · rintro ⟨hanswer, hconfiguration⟩
    cases hresolve : s.resolve with
    | error found =>
      rw [optimize_of_error hresolve] at hanswer
      exact congrArg _ (Except.error.inj hanswer)
    | ok resolved =>
      have hnot := not_refused_of_resolve hresolve condition
      rw [hanswer, isRefusal, hconfiguration] at hnot
      cases hnot
  · intro hresolve
    exact ⟨congrArg Prod.snd (optimize_of_error hresolve condition),
      isConfigurationError_of_resolve hresolve⟩

/-- A call is refused exactly if one of its checks fails, and then with the error of the first that
does. Passed checks determine the request. Only the names that the checks look at matter: with
other options that hold the same values under them, the call is refused with the same error, or
the same is asked for and the same model is built; and for the moving asymptotes, and for the
trust-region strategy of a coordinator with a model, that is the name of the strategy alone. An
interior-point backend that runs on its own is handed the text of the checkpoint option, if it
holds one, and no file otherwise. -/
theorem refused_by_first_failure (s : Session kit) :
    (∀ condition e, (s.optimize condition).2 = .error e ∧ e.isConfigurationError = true ↔
      s.firstFailure? = some e) ∧
    (∀ condition, isRefusal (s.optimize condition).2 = true ↔
      ∃ check ∈ s.checks, (check.failure? (s.options.value? check.name)).isSome = true) ∧
    (∀ request, (∃ resolved, s.resolve = .ok (request, resolved)) ↔
      s.firstFailure? = none ∧ s.requested? = some request) ∧
    (∀ options, OptionStore.AgreeOn s.namesRead s.options options →
      { s with options }.resolve =
        s.resolve.map fun (request, resolved) => (request, { resolved with options })) ∧
    (s.options.selected? = some .movingAsymptotes ∨
        s.options.selected? = some .trustRegion ∧ s.subproblem.isSome = true →
      ∀ name ∈ s.namesRead, name = OptionName.algorithm) ∧
    ∀ condition checkpoint, s.firstFailure? = none →
      s.requested? = some (.interiorPoint checkpoint) →
      checkpoint = s.options.word? OptionName.checkpointFile ∧
        ∃ (w : Workshop kit) (ip : LiveInteriorPoint kit) (changes : List Event),
          let solved := Workshop.solve condition checkpoint w ip
          (s.optimize condition).1.backends = .interiorPoint solved.2.1 ∧
            (s.optimize condition).2 = solved.2.2.mapError .backend ∧
            (∀ event ∈ changes, ∃ role serial,
              event = .dropped role serial ∨ event = .built role serial) ∧
            (s.optimize condition).1.events = s.events ++ changes ++
              .ran (.interiorPoint ip.target.kind) ip.serial ::
                (checkpoint.map .checkpoint).toList := by
  refine ⟨s.refused_with_iff, ?_, s.exists_resolve_iff, fun options h => s.resolve_congr h,
    ?_, ?_⟩
  · intro condition
    rw [s.isRefusal_optimize_iff condition, ← List.findSome?_isSome_iff,
      Option.isSome_iff_exists]
    refine exists_congr fun e => ?_
    rw [← errorOf?_eq_some, s.errorOf?_resolve]
    rfl
  · intro hselected name hname
    have hchecks : s.checks = ConfigurationCheck.strategy := by
      rcases hselected with hselected | ⟨hselected, hown⟩
      · rw [checks, hselected, List.append_nil]
      · simp only [checks, hselected, hown, if_true, List.append_nil]
    obtain ⟨check, hcheck, rfl⟩ := OptionStore.exists_check_of_mem_namesRead hname
    exact ConfigurationCheck.name_of_mem_strategy (hchecks ▸ hcheck)
  · intro condition checkpoint hnone hrequested
    obtain ⟨resolved, hresolve⟩ := (s.exists_resolve_iff _).mpr ⟨hnone, hrequested⟩
    obtain ⟨w, ip, hbackends, hanswer, hevents⟩ := optimize_interiorPoint hresolve condition
    refine ⟨?_, w, ip, _, hbackends, hanswer, fun event => dropped_or_built_of_mem, hevents⟩
    obtain ⟨algorithm, -, hrequest⟩ := Option.map_eq_some_iff.mp hrequested
    cases algorithm <;> cases hrequest
    rfl

/-- With a decoded store that selects the interior-point method by a text with blanks, a checkpoint
option that holds an integer is refused, and one that holds a text has it handed to the run. A
subspace size that holds no integer is not looked at. -/
theorem decoded_options_checked :
    let kit := ElementarySolvers.standard.kit
    let problem : Problem Binary64 := Problem.ofBounds [] 0
    let entry (value : OptionValue) : OptionEntry := ⟨.str, value, value, "decoded"⟩
    let store (file : OptionValue) : OptionStore :=
      (OptionStore.empty.put OptionName.algorithm (entry (.str (some " IP ")))).put
        OptionName.checkpointFile (entry file)
    let numbered := new kit problem (store (.int 3))
    let named := new kit problem (store (.choice "run.ckpt"))
    let extended := (store (.choice "run.ckpt")).put OptionName.subspaceSize (entry (.bool true))
    (numbered.optimize none).2 =
        .error (.option (.typeMismatch OptionName.checkpointFile .string)) ∧
      (∃ changes target serial, (named.optimize none).1.events =
        changes ++ [.ran (.interiorPoint target) serial, .checkpoint "run.ckpt"]) ∧
      OptionStore.AgreeOn named.namesRead named.options extended ∧
      errorOf? { named with options := extended }.resolve = none := by
  intro kit problem entry store numbered named extended
  obtain ⟨hrefused, -, -, -, -, -⟩ := refused_by_first_failure numbered
  obtain ⟨-, -, hresolved, hagree, -, hrun⟩ := refused_by_first_failure named
  have hpassed : named.firstFailure? = none := by decide
  have hrequested : named.requested? = some (.interiorPoint (some "run.ckpt")) := by decide
  have hextended : OptionStore.AgreeOn named.namesRead named.options extended := by
    show ∀ name ∈ named.namesRead, extended.value? name = named.options.value? name
    decide
  refine ⟨((hrefused none _).mpr (by decide)).1, ?_, hextended, ?_⟩
  · obtain ⟨-, w, ip, changes, -, -, -, hevents⟩ := hrun none _ hpassed hrequested
    exact ⟨changes, ip.target.kind, ip.serial, hevents⟩
  · obtain ⟨resolved, hresolve⟩ := (hresolved _).mpr ⟨hpassed, hrequested⟩
    rw [hagree extended hextended, hresolve]
    rfl

end Session

end StrategyCoordinator
