import StrategyCoordinator.Proofs.Coordinator.Assembly

/-!
# What a run leaves as it was

A run changes the backends' own matters, the contents of models and surrogates, and the
journal. It neither builds nor drops anything, exchanges no backend for another, and enters
only that backends were run and that checkpoint files were handed to them: first the outer
backend, once, and after that only the inner one.
-/

namespace StrategyCoordinator

/-- An entry that reports a run of one of the given backends, or a checkpoint file. -/
def JournalEntry.ReportsRun (backends : List (Role × Nat)) (entry : JournalEntry) : Prop :=
  (∃ path, entry = .event (.checkpoint path)) ∨
    ∃ backend ∈ backends, entry = .event (.ran backend.1 backend.2)

/-- The entries of one run: the outermost backend is run first, and the others inside its run. -/
def Journal.IsRunOf : List (Role × Nat) → Journal → Prop
  | [], entries => entries = []
  | outer :: inner, entries =>
    ∃ rest : Journal, entries = .event (.ran outer.1 outer.2) :: rest ∧
      ∀ entry ∈ rest, entry.ReportsRun inner

/-- The entries of one run report runs of the live backends. -/
theorem Journal.IsRunOf.reportsRun {roster : List (Role × Nat)} {entries : Journal}
    (h : Journal.IsRunOf roster entries) : ∀ entry ∈ entries, entry.ReportsRun roster := by
  cases roster with
  | nil =>
    obtain rfl : entries = [] := h
    simp
  | cons outer inner =>
    obtain ⟨rest, rfl, hrest⟩ := h
    intro entry hentry
    rcases List.mem_cons.mp hentry with rfl | hentry
    · exact Or.inr ⟨outer, List.mem_cons_self, rfl⟩
    · rcases hrest entry hentry with hpath | ⟨backend, hbackend, hran⟩
      · exact Or.inl hpath
      · exact Or.inr ⟨backend, List.mem_cons_of_mem _ hbackend, hran⟩

/-- Entries that report runs show no other events. -/
theorem Journal.ran_or_checkpoint_of_mem {backends : List (Role × Nat)} {entries : Journal}
    (h : ∀ entry ∈ entries, entry.ReportsRun backends) {event : Event}
    (hevent : event ∈ entries.events) :
    (∃ path, event = .checkpoint path) ∨
      ∃ backend ∈ backends, event = .ran backend.1 backend.2 := by
  obtain ⟨entry, hentry, heq⟩ := List.mem_filterMap.mp hevent
  rcases h entry hentry with ⟨path, rfl⟩ | ⟨backend, hbackend, rfl⟩
  · exact Or.inl ⟨path, (Option.some.inj heq).symm⟩
  · exact Or.inr ⟨backend, hbackend, (Option.some.inj heq).symm⟩

variable {R : Type} {kit : SolverKit R}

namespace LiveInteriorPoint

/-- An interior-point backend by role and serial number. -/
def label (ip : LiveInteriorPoint kit) : Role × Nat :=
  (.interiorPoint ip.target.kind, ip.serial)

end LiveInteriorPoint

namespace Workshop

/-- What requests to an inner backend leave as it was, however many there are. -/
structure InnerRuns (w : Workshop kit) (ip : LiveInteriorPoint kit) (w' : Workshop kit)
    (ip' : LiveInteriorPoint kit) : Prop where
  problem : w'.problem = w.problem
  nextSerial : w'.nextSerial = w.nextSerial
  serial : ip'.serial = ip.serial
  target : ip'.target = ip.target
  models : ∀ handle, (w'.models.get? handle).isSome = (w.models.get? handle).isSome
  surrogates : ∀ owner, (w'.surrogates.get? owner).isSome = (w.surrogates.get? owner).isSome
  journal : ∃ entries : Journal, w'.journal = w.journal ++ entries ∧
    ∀ entry ∈ entries, entry.ReportsRun [ip.label]

namespace InnerRuns

variable {w w' w'' : Workshop kit} {ip ip' ip'' : LiveInteriorPoint kit}

/-- Without a request everything stays. -/
theorem refl (w : Workshop kit) (ip : LiveInteriorPoint kit) : w.InnerRuns ip w ip :=
  ⟨rfl, rfl, rfl, rfl, fun _ => rfl, fun _ => rfl, [], by simp⟩

/-- Requests can follow each other. -/
theorem trans (h : w.InnerRuns ip w' ip') (h' : w'.InnerRuns ip' w'' ip'') :
    w.InnerRuns ip w'' ip'' := by
  obtain ⟨entries, hentries, hreports⟩ := h.journal
  obtain ⟨entries', hentries', hreports'⟩ := h'.journal
  have hlabel : ip'.label = ip.label := by rw [LiveInteriorPoint.label, h.target, h.serial]; rfl
  refine ⟨h'.problem.trans h.problem, h'.nextSerial.trans h.nextSerial,
    h'.serial.trans h.serial, h'.target.trans h.target,
    fun handle => (h'.models handle).trans (h.models handle),
    fun owner => (h'.surrogates owner).trans (h.surrogates owner), entries ++ entries', ?_, ?_⟩
  · rw [hentries', hentries, List.append_assoc]
  · intro entry hentry
    rcases List.mem_append.mp hentry with hentry | hentry
    · exact hreports entry hentry
    · exact hlabel ▸ hreports' entry hentry

end InnerRuns

/-- Replacing the contents of a model leaves everything else. -/
theorem innerRuns_modifyModel (w : Workshop kit) (ip : LiveInteriorPoint kit) (handle : Nat)
    (change : QuadraticModel R kit.Curvature → QuadraticModel R kit.Curvature) :
    w.InnerRuns ip { w with models := w.models.modify handle change } ip :=
  ⟨rfl, rfl, rfl, rfl, fun _ => Shelf.isSome_get?_modify .., fun _ => rfl, [], by simp⟩

/-- Replacing a surrogate leaves everything else. -/
theorem innerRuns_modifySurrogate (w : Workshop kit) (ip : LiveInteriorPoint kit) (owner : Nat)
    (change : Problem R → Problem R) :
    w.InnerRuns ip { w with surrogates := w.surrogates.modify owner change } ip :=
  ⟨rfl, rfl, rfl, rfl, fun _ => rfl, fun _ => Shelf.isSome_get?_modify .., [], by simp⟩

variable [Scalar R]

/-- A solve enters the run and the checkpoint file, and changes nothing else of the workshop. -/
theorem solve_workshop (condition : kit.Condition) (checkpoint : Option String)
    (w : Workshop kit) (ip : LiveInteriorPoint kit) :
    (solve condition checkpoint w ip).1 =
      (w.happen (.ran ip.label.1 ip.label.2)).handCheckpoint checkpoint := by
  simp only [solve]
  split <;> rfl

/-- A solve leaves the backend that is run at its place. -/
theorem solve_label (condition : kit.Condition) (checkpoint : Option String)
    (w : Workshop kit) (ip : LiveInteriorPoint kit) :
    (solve condition checkpoint w ip).2.1.serial = ip.serial ∧
      (solve condition checkpoint w ip).2.1.target = ip.target := by
  simp only [solve]
  split <;> exact ⟨rfl, rfl⟩

/-- The entries of a solve: the run of the backend, and its checkpoint file if it has one. -/
theorem solve_journal (condition : kit.Condition) (checkpoint : Option String)
    (w : Workshop kit) (ip : LiveInteriorPoint kit) :
    (solve condition checkpoint w ip).1.journal =
      w.journal ++ .event (.ran ip.label.1 ip.label.2) ::
        (checkpoint.map fun path => .event (.checkpoint path)).toList := by
  rw [solve_workshop]
  cases checkpoint <;> simp [handCheckpoint, happen]

/-- A solve is one request to the inner backend. -/
theorem solve_innerRuns (condition : kit.Condition) (checkpoint : Option String)
    (w : Workshop kit) (ip : LiveInteriorPoint kit) :
    w.InnerRuns ip (solve condition checkpoint w ip).1 (solve condition checkpoint w ip).2.1 := by
  obtain ⟨hserial, htarget⟩ := solve_label condition checkpoint w ip
  have hjournal := solve_journal condition checkpoint w ip
  have hreports : ∀ entry ∈ JournalEntry.event (.ran ip.label.1 ip.label.2) ::
      (checkpoint.map fun path => JournalEntry.event (.checkpoint path)).toList,
      entry.ReportsRun [ip.label] := by
    intro entry hentry
    rcases List.mem_cons.mp hentry with rfl | hentry
    · exact Or.inr ⟨ip.label, List.mem_singleton_self _, rfl⟩
    · obtain ⟨path, -, rfl⟩ := Option.map_eq_some_iff.mp (Option.mem_toList.mp hentry)
      exact Or.inl ⟨path, rfl⟩
  rw [solve_workshop] at hjournal ⊢
  cases checkpoint <;>
    exact ⟨rfl, rfl, hserial, htarget, fun _ => rfl, fun _ => rfl, _, hjournal, hreports⟩

/-- The requests of a trust-region run leave everything but contents as it was. -/
theorem performTrustRegion_innerRuns (condition : kit.Condition) (handle : Nat)
    (before : kit.TrustRegion) (w : Workshop kit) (ip : LiveInteriorPoint kit)
    (run : TrustRegionRun R kit.Curvature kit.TrustRegion) :
    w.InnerRuns ip (performTrustRegion condition handle before w ip run).workshop
      (performTrustRegion condition handle before w ip run).inner := by
  induction run generalizing w ip with
  | finish => exact .refl w ip
  | inspect next ih =>
    unfold performTrustRegion
    split
    · exact .refl w ip
    · exact ih _ w ip
  | setCenter x next ih =>
    unfold performTrustRegion
    split
    · exact .refl w ip
    · split
      · exact ih _ w ip
      · exact (w.innerRuns_modifyModel ip handle _).trans (ih _ _ ip)
  | setRadius radius next ih => exact (w.innerRuns_modifyModel ip handle _).trans (ih _ ip)
  | updateCurvature s y next ih =>
    unfold performTrustRegion
    split
    · exact .refl w ip
    · exact (w.innerRuns_modifyModel ip handle _).trans (ih _ _ ip)
  | solve checkpoint next ih =>
    exact (solve_innerRuns condition checkpoint w ip).trans (ih _ _ _ _)

/-- The requests of a moving-asymptotes run leave everything but contents as it was. -/
theorem performAsymptotes_innerRuns (condition : kit.Condition) (owner : Nat)
    (w : Workshop kit) (ip : LiveInteriorPoint kit) (run : AsymptotesRun R kit.Asymptotes) :
    w.InnerRuns ip (performAsymptotes condition owner w ip run).workshop
      (performAsymptotes condition owner w ip run).inner := by
  induction run generalizing w ip with
  | finish => exact .refl w ip
  | setSurrogate surrogate next ih =>
    exact (w.innerRuns_modifySurrogate ip owner _).trans (ih _ ip)
  | solve checkpoint next ih =>
    exact (solve_innerRuns condition checkpoint w ip).trans (ih _ _ _ _)

end Workshop

namespace Session

/-- What running the live backends leaves as it was, and what it enters in the journal. -/
structure RunLeaves (s s' : Session kit) : Prop where
  options : s'.options = s.options
  subproblem : s'.subproblem = s.subproblem
  held : s'.held = s.held
  assembly : s'.backends.assembly = s.backends.assembly
  problem : s'.workshop.problem = s.workshop.problem
  nextSerial : s'.workshop.nextSerial = s.workshop.nextSerial
  models : ∀ handle,
    (s'.workshop.models.get? handle).isSome = (s.workshop.models.get? handle).isSome
  surrogates : ∀ owner,
    (s'.workshop.surrogates.get? owner).isSome = (s.workshop.surrogates.get? owner).isSome
  journal : ∃ entries : Journal, s'.workshop.journal = s.workshop.journal ++ entries ∧
    entries.IsRunOf s.backends.roster

variable [Scalar R]

/-- Running the live backends keeps them, whether the run succeeds or fails. -/
theorem runBackends_leaves (s : Session kit) (condition : kit.Condition)
    (checkpoint : Option String) : s.RunLeaves (s.runBackends condition checkpoint).1 := by
  obtain ⟨workshop, options, backends, subproblem, held⟩ := s
  cases backends with
  | uninitialized =>
    exact ⟨rfl, rfl, rfl, rfl, rfl, rfl, fun _ => rfl, fun _ => rfl, [], by simp [runBackends], rfl⟩
  | interiorPoint ip =>
    have h := Workshop.solve_innerRuns condition checkpoint workshop ip
    have hreports : ∀ entry ∈ (checkpoint.map fun path =>
        JournalEntry.event (.checkpoint path)).toList, entry.ReportsRun [] := by
      intro entry hentry
      obtain ⟨path, -, rfl⟩ := Option.map_eq_some_iff.mp (Option.mem_toList.mp hentry)
      exact Or.inl ⟨path, rfl⟩
    refine ⟨rfl, rfl, rfl, ?_, h.problem, h.nextSerial, h.models, h.surrogates, _,
      Workshop.solve_journal condition checkpoint workshop ip, _, rfl, hreports⟩
    simp only [runBackends, Backends.assembly, h.serial, h.target]
  | trustRegion tr ip bound =>
    have h := Workshop.performTrustRegion_innerRuns condition tr.subproblem tr.backend
      (workshop.happen (.ran .trustRegion tr.serial)) ip (kit.runTrustRegion condition tr.backend)
    obtain ⟨entries, hentries, hreports⟩ := h.journal
    refine ⟨rfl, rfl, rfl, ?_, h.problem, h.nextSerial, h.models, h.surrogates,
      .event (.ran .trustRegion tr.serial) :: entries, ?_, entries, rfl, hreports⟩
    · simp only [runBackends, Backends.assembly, h.serial, h.target]
    · exact hentries.trans (by simp [Workshop.happen])
  | asymptotes mma ip =>
    have h := Workshop.performAsymptotes_innerRuns condition mma.serial
      (workshop.happen (.ran .asymptotes mma.serial)) ip (kit.runAsymptotes condition mma.backend)
    obtain ⟨entries, hentries, hreports⟩ := h.journal
    refine ⟨rfl, rfl, rfl, ?_, h.problem, h.nextSerial, h.models, h.surrogates,
      .event (.ran .asymptotes mma.serial) :: entries, ?_, entries, rfl, hreports⟩
    · simp only [runBackends, Backends.assembly, h.serial, h.target]
    · exact hentries.trans (by simp [Workshop.happen])

end Session

end StrategyCoordinator
