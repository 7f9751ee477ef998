import SlideDeck.CommandLine.Run

/-!
# What the command does to the files

The command adds a configuration, a status and what it prints to a conversion of files.  Some of its
options say what is converted and how, the others what is reported.  The files afterwards and the
status depend on the first kind alone.

* `Reply.ofConversion` — the reply to a conversion that has ended; `Options.run_eq` says that a run
  is a check of the configuration, then a conversion and this reply.
* `Event.level_rank_lt` — nothing that is logged in a conversion has the level of an error.
* `Options.SameConversion` — options that differ in what is reported at most;
  `Options.status_run_congr` says that they run alike, wherever the files are.
* `Request.execute` — the command on files that are a value; `Request.execute_effects` says what it
  leaves.
-/

set_option autoImplicit false

namespace SlideDeck

/-! ## The reply to a conversion -/

namespace Reply

/-- The reply to a conversion that has ended. -/
def ofConversion (o : Options) (conversion : FileConversion) : Reply :=
  match conversion.result with
  | .error e =>
    ⟨1, [], logText o conversion.events ++ failureText "Conversion failed".toList e⟩
  | .ok stats =>
    ⟨0, if o.json then stats.json 0 ++ ['\n'] else [],
      logText o conversion.events ++ (if o.quiet then [] else summary o stats)⟩

/-- The reply to a configuration that is not accepted. -/
def ofRejected (e : ConversionError) : Reply :=
  ⟨1, [], failureText "Invalid configuration".toList e⟩

theorem status_ofConversion (o : Options) (conversion : FileConversion) :
    (ofConversion o conversion).status = if conversion.result.isOk then 0 else 1 := by
  rw [ofConversion]
  cases conversion.result <;> rfl

theorem output_ofConversion {o : Options} {conversion : FileConversion}
    (h : (ofConversion o conversion).output ≠ []) :
    o.json = true ∧ (ofConversion o conversion).status = 0 := by
  rw [ofConversion] at h ⊢
  cases hresult : conversion.result with
  | error e =>
    rw [hresult] at h
    exact absurd rfl h
  | ok stats =>
    rw [hresult] at h
    by_cases hjson : o.json = true
    · exact ⟨hjson, rfl⟩
    · exact absurd (if_neg hjson) h

end Reply

/-- Nothing that is logged in a conversion has the level of an error. -/
theorem Event.level_rank_lt (e : Event) : e.level.rank < Level.error.rank := by
  cases e <;> simp only [Event.level, Level.rank] <;> omega

namespace Reply

theorem logText_of_quiet {o : Options} (h : o.quiet = true) (events : List Event) :
    logText o events = [] := by
  have hnone : events.filter (fun e => (logLevel o).rank ≤ e.level.rank) = [] := by
    refine List.filter_eq_nil_iff.2 fun e _ => ?_
    have hrank := e.level_rank_lt
    rw [logLevel, if_pos h, decide_eq_true_eq]
    omega
  rw [logText, hnone, List.flatMap_nil]

theorem errors_ofConversion {o : Options} {conversion : FileConversion} (hquiet : o.quiet = true)
    (h : (ofConversion o conversion).status = 0) : (ofConversion o conversion).errors = [] := by
  rw [ofConversion] at h ⊢
  cases hresult : conversion.result with
  | error e =>
    rw [hresult] at h
    cases h
  | ok stats =>
    dsimp only
    rw [logText_of_quiet hquiet, if_pos hquiet, List.append_nil]

end Reply

/-! ## Running with options -/

namespace Options

section

variable {m : Type → Type} [Monad m] [LawfulMonad m] (files : FileAccess m) {o o' : Options}

/-- **A run of the command** checks the configuration before anything else, and replies to a
conversion. -/
theorem run_eq (o : Options) :
    o.run files =
      match (ConfigBuilder.ofSettings o.settings).build with
      | .error e => pure (.ofRejected e)
      | .ok config => Reply.ofConversion o <$> convertFile files config o.input o.output := by
  rw [run]
  cases (ConfigBuilder.ofSettings o.settings).build with
  | error e => rfl
  | ok config =>
    dsimp only
    rw [map_eq_pure_bind]
    refine bind_congr fun conversion => ?_
    rw [Reply.ofConversion]
    cases conversion.result <;> rfl

/-- Options that differ in what is reported at most. -/
def SameConversion (o o' : Options) : Prop :=
  o' = { o with json := o'.json, verbose := o'.verbose, quiet := o'.quiet }

/-- Such options run alike but for what is printed. -/
theorem status_run_congr (h : o.SameConversion o') :
    Reply.status <$> o'.run files = Reply.status <$> o.run files := by
  have hsettings : o'.settings = o.settings := by rw [h]; rfl
  have hinput : o'.input = o.input := by rw [h]
  have houtput : o'.output = o.output := by rw [h]
  rw [run_eq, run_eq, hsettings, hinput, houtput]
  cases (ConfigBuilder.ofSettings o.settings).build with
  | error e => rfl
  | ok config =>
    dsimp only
    rw [← comp_map, ← comp_map]
    refine congrArg (· <$> _) (funext fun conversion => ?_)
    rw [Function.comp_apply, Function.comp_apply, Reply.status_ofConversion,
      Reply.status_ofConversion]

end

end Options

/-! ## The command -/

namespace Request

variable {World : Type} (files : FileAccess (StateM World)) (world : World)

/-- The reply of the command and the files that it leaves. -/
def execute (arguments : List Text) : Reply × World :=
  ((ofArguments arguments).run files).run world

variable {arguments arguments' : List Text} {o o' : Options}

theorem execute_of_convert (h : ofArguments arguments = .convert o) :
    execute files world arguments = (o.run files).run world := by
  rw [execute, h]
  rfl

theorem execute_of_rejected {e : ConversionError} (h : ofArguments arguments = .convert o)
    (hbuild : (ConfigBuilder.ofSettings o.settings).build = .error e) :
    execute files world arguments = (.ofRejected e, world) := by
  rw [execute_of_convert files world h, Options.run_eq, hbuild]
  rfl

theorem execute_of_accepted {config : Config} (h : ofArguments arguments = .convert o)
    (hbuild : (ConfigBuilder.ofSettings o.settings).build = .ok config) :
    execute files world arguments
      = ((convertFile files config o.input o.output).run world).map (Reply.ofConversion o) id := by
  rw [execute_of_convert files world h, Options.run_eq, hbuild]
  rfl

theorem execute_congr (h : ofArguments arguments = .convert o)
    (h' : ofArguments arguments' = .convert o') (hsame : o.SameConversion o') :
    (execute files world arguments').1.status = (execute files world arguments).1.status
      ∧ (execute files world arguments').2 = (execute files world arguments).2 := by
  rw [execute_of_convert files world h, execute_of_convert files world h']
  have hrun := congrArg (StateT.run · world) (Options.status_run_congr files hsame)
  exact Prod.mk.inj hrun

/-- **The effects of the command.**  Wherever the files are, and for all arguments that ask for a
conversion: if the configuration is not accepted, the status is one and the files are as they were.
Otherwise the files are those that the conversion leaves, and the status tells whether it succeeded.
Arguments that ask for the same conversion have the same effects, whatever they ask to be reported.
Something is printed on standard output only as JSON and after success.  After success nothing is
printed on standard error if the command is to be quiet. -/
theorem execute_effects (h : ofArguments arguments = .convert o) :
    (match (ConfigBuilder.ofSettings o.settings).build with
      | .error _ =>
        (execute files world arguments).1.status = 1 ∧ (execute files world arguments).2 = world
      | .ok config =>
        let conversion := (convertFile files config o.input o.output).run world
        (execute files world arguments).1.status = (if conversion.1.result.isOk then 0 else 1)
          ∧ (execute files world arguments).2 = conversion.2)
      ∧ (∀ (arguments' : List Text) (o' : Options), ofArguments arguments' = .convert o' →
        o.SameConversion o' →
        (execute files world arguments').1.status = (execute files world arguments).1.status
          ∧ (execute files world arguments').2 = (execute files world arguments).2)
      ∧ ((execute files world arguments).1.output ≠ [] →
        o.json = true ∧ (execute files world arguments).1.status = 0)
      ∧ (o.quiet = true → (execute files world arguments).1.status = 0 →
        (execute files world arguments).1.errors = []) := by
  refine ⟨?_, fun arguments' o' h' hsame => execute_congr files world h h' hsame, ?_⟩
  · cases hbuild : (ConfigBuilder.ofSettings o.settings).build with
    | error e =>
      rw [execute_of_rejected files world h hbuild]
      exact ⟨rfl, rfl⟩
    | ok config =>
      rw [execute_of_accepted files world h hbuild]
      exact ⟨Reply.status_ofConversion o _, rfl⟩
  · cases hbuild : (ConfigBuilder.ofSettings o.settings).build with
    | error e =>
      rw [execute_of_rejected files world h hbuild]
      refine ⟨fun houtput => absurd rfl houtput, fun _ hstatus => ?_⟩
      cases hstatus
    | ok config =>
      rw [execute_of_accepted files world h hbuild]
      exact ⟨Reply.output_ofConversion, Reply.errors_ofConversion⟩

/-- A file is converted without a word, and the statistics asked for make no difference to it. -/
theorem execute_effects_quiet :
    let fs : FileTree := ⟨[([['d']], .directory), ([['d'], ['a']], .file [])], [['d']]⟩
    let quiet := ["-q".toList, ['a'], ['b']]
    let telling := ["--json".toList, ['a'], "-v".toList, ['b']]
    ofArguments quiet = .convert ⟨['a'], ['b'], none, [], [], false, false, false, true⟩
      ∧ (execute FileTree.access fs quiet).1.status = 0
      ∧ (execute FileTree.access fs quiet).1.errors = []
      ∧ (execute FileTree.access fs telling).1.status = 0
      ∧ (execute FileTree.access fs telling).1.output ≠ []
      ∧ (execute FileTree.access fs telling).2 = (execute FileTree.access fs quiet).2 := by
  intro fs quiet telling
  have hquiet : ofArguments quiet
      = .convert ⟨['a'], ['b'], none, [], [], false, false, false, true⟩ := by decide +kernel
  have htelling : ofArguments telling
      = .convert ⟨['a'], ['b'], none, [], [], false, true, true, false⟩ := by decide +kernel
  have hreply : (execute FileTree.access fs quiet).1.status = 0 := by decide +kernel
  obtain ⟨-, hsame, -, herrors⟩ := execute_effects FileTree.access fs hquiet
  obtain ⟨hstatus, hfiles⟩ := hsame telling _ htelling rfl
  exact ⟨hquiet, hreply, herrors rfl hreply, hstatus.trans hreply, by decide +kernel, hfiles⟩

end Request
end SlideDeck
