import DocTag.Proofs.CommandLine.Description

/-!
# The shapes of a run

Seen from outside, a run that ends with an exit code has one of four shapes: it prints a
description, it prints the help text, it complains about its command line, or it reports a text that
breaks a rule (`Shape`). Which of them it has can be told from what is seen alone
(`Shape.Fits.eq_ofSeen`), so it has exactly one (`run_has_shape`).

Help and complaints are decided by the command line and consult nothing else. The other two read the
settings first, and that leaves a warning for each malformed line of the environment file; settings
that cannot be read are reported for no command line but a request, with nothing but these warnings
printed before.
-/

namespace DocTag.CommandLine

/-! ## Shapes -/

/-- What can be seen of a run that ends with an exit code. -/
structure Seen where
  code : Nat
  output : Text
  errorOutput : Text

/-- What is seen of an outcome that has an exit code, at a time. -/
def Outcome.seen (o : Outcome) (code : Nat) (timestamp : Text) : Seen :=
  ⟨code, o.output, o.errorOutput timestamp⟩

/-- The shapes that a run can have. -/
inductive Shape
  | description
  | help
  | refusal
  | rejection
  deriving DecidableEq, Repr

/-- The warnings for the malformed lines of the file that settings are read from. -/
def warningText (x : Surroundings) : Text :=
  x.malformedLines.flatMap fun line =>
    "python-dotenv could not parse statement starting at line ".toList ++ Text.ofNat line ++ ['\n']

/-- **What is seen of a run of each shape** whose settings are read from some surroundings. Details
are shown at the level of `DEBUG` and below, the record of a refused text at that of `WARNING` and
below. -/
def Shape.Fits (x : Surroundings) (seen : Seen) : Shape → Prop
  | .description =>
    seen.code = 0 ∧
      (∃ line j, seen.output = line ++ ['\n'] ∧ Json.Visible line ∧ Json.read line = some j) ∧
      ∃ (s : Settings) (details : Text), x.given = .ok s ∧
        seen.errorOutput = warningText x ++
          if Level.ofName s.logLevel ≤ Severity.debug.number then details else []
  | .help => seen.code = 0 ∧ seen.output = CommandLine.help ∧ seen.errorOutput = []
  | .refusal =>
    seen.code = 2 ∧ seen.output = [] ∧ ∃ refusal : Refusal, seen.errorOutput = complaint refusal
  | .rejection =>
    seen.code = 2 ∧ seen.output = [] ∧
      ∃ (s : Settings) (v : Violation), x.given = .ok s ∧ v.kind ≠ .comment ∧
        seen.errorOutput = warningText x ++
          ((if Level.ofName s.logLevel ≤ Severity.warning.number then
            "part_precondition_failed\n".toList else []) ++
            ("error: ".toList ++ v.message ++ ['\n']))

/-- The shape that is seen. -/
def Shape.ofSeen (seen : Seen) : Shape :=
  if seen.code = 0 then if seen.output = CommandLine.help then .help else .description
  else if seen.errorOutput.head? = some 'u' then .refusal else .rejection

/-! ## Telling shapes apart -/

/-- The help text is more than one line. -/
theorem line_ne_help {line : Text} (h : Json.Visible line) : line ++ ['\n'] ≠ CommandLine.help := by
  intro hline
  have hdropped : line = CommandLine.help.dropLast := by
    rw [← hline, List.dropLast_concat]
  have hcontrol : ¬ Json.Visible CommandLine.help.dropLast := by decide +kernel
  exact hcontrol (hdropped ▸ h)

/-- A text that starts with a word starts with the first character of it. -/
theorem head?_of_word {word : Text} {c : Char} (rest : Text) (h : word.head? = some c) :
    (word ++ rest).head? = some c := by
  rw [List.head?_append, h]
  rfl

theorem complaint_head (refusal : Refusal) : (complaint refusal).head? = some 'u' := by
  simp only [complaint, List.append_assoc]
  exact head?_of_word _ (by decide +kernel)

theorem warningText_append_head (x : Surroundings) {rest : Text} (h : rest.head? ≠ some 'u') :
    (warningText x ++ rest).head? ≠ some 'u' := by
  unfold warningText
  cases x.malformedLines with
  | nil => exact h
  | cons line later =>
    have hhead : ("python-dotenv could not parse statement starting at line ".toList ++
        (Text.ofNat line ++ ['\n'] ++ (later.flatMap fun line =>
          "python-dotenv could not parse statement starting at line ".toList ++
            Text.ofNat line ++ ['\n']) ++ rest)).head? = some 'p' :=
      head?_of_word _ (by decide +kernel)
    simp only [List.flatMap_cons, List.append_assoc] at hhead ⊢
    rw [hhead]
    decide

/-- What follows the warnings when a text breaks a rule is no complaint. -/
theorem rejection_head (recorded : Prop) [Decidable recorded] (message : Text) :
    ((if recorded then "part_precondition_failed\n".toList else []) ++
      ("error: ".toList ++ message ++ ['\n'])).head? ≠ some 'u' := by
  have hword : "part_precondition_failed\n".toList.head? = some 'p' := by decide +kernel
  have hmark : "error: ".toList.head? = some 'e' := by decide +kernel
  rw [List.append_assoc "error: ".toList]
  split
  · rw [head?_of_word _ hword]
    decide
  · rw [List.nil_append, head?_of_word _ hmark]
    decide

/-- **The shape can be told from what is seen.** -/
theorem Shape.Fits.eq_ofSeen {x : Surroundings} {seen : Seen} {shape : Shape}
    (h : shape.Fits x seen) : shape = Shape.ofSeen seen := by
  cases shape with
  | description =>
    obtain ⟨hcode, ⟨line, j, houtput, hvisible, -⟩, -⟩ := h
    have hhelp : seen.output ≠ CommandLine.help := houtput ▸ line_ne_help hvisible
    rw [ofSeen, if_pos hcode, if_neg hhelp]
  | help =>
    obtain ⟨hcode, houtput, -⟩ := h
    rw [ofSeen, if_pos hcode, if_pos houtput]
  | refusal =>
    obtain ⟨hcode, -, refusal, herror⟩ := h
    have hhead : seen.errorOutput.head? = some 'u' := herror ▸ complaint_head refusal
    rw [ofSeen, hcode, if_neg (by decide), if_pos hhead]
  | rejection =>
    obtain ⟨hcode, -, s, v, -, -, herror⟩ := h
    have hhead : seen.errorOutput.head? ≠ some 'u' := by
      rw [herror]
      exact warningText_append_head x (rejection_head _ _)
    rw [ofSeen, hcode, if_neg (by decide), if_neg hhead]

/-! ## The error output of a run -/

/-- Events as they stand in the error output. -/
def linesAt (timestamp : Text) (events : List Event) : Text :=
  events.flatMap fun event => event.line timestamp ++ ['\n']

/-- Of events that one bound decides about, all are shown or none. -/
theorem linesAt_filter {events : List Event} {level bound : Nat} (timestamp : Text)
    (h : ∀ event ∈ events, event.isShown ⟨level, level⟩ = decide (level ≤ bound)) :
    linesAt timestamp (events.filter (Event.isShown ⟨level, level⟩)) =
      if level ≤ bound then linesAt timestamp events else [] := by
  split
  · next hlevel =>
    have hall : events.filter (Event.isShown ⟨level, level⟩) = events := by
      rw [List.filter_eq_self]
      intro event hevent
      rw [h event hevent]
      exact decide_eq_true hlevel
    rw [hall]
  · next hlevel =>
    have hnone : events.filter (Event.isShown ⟨level, level⟩) = [] := by
      rw [List.filter_eq_nil_iff]
      intro event hevent
      rw [h event hevent, decide_eq_true_eq]
      exact hlevel
    rw [hnone]
    rfl

/-- The records of reading a part are details. -/
theorem severity_of_mem_records {part : Part} {r : Record} (h : r ∈ part.records) :
    r.severity = .debug := by
  unfold Part.records at h
  split at h
  · unfold Comment.records at h
    split at h
    · exact absurd h List.not_mem_nil
    · rw [List.mem_singleton.1 h]
      rfl
  · exact absurd h List.not_mem_nil

theorem isShown_details (level : Nat) (part : Part) :
    ∀ event ∈ details part,
      event.isShown ⟨level, level⟩ = decide (level ≤ Severity.debug.number) := by
  intro event hevent
  rcases List.mem_cons.1 hevent with rfl | h
  · rw [Event.isShown, Thresholds.showsEvent, Nat.max_self]
  · obtain ⟨r, hr, rfl⟩ := List.mem_map.1 h
    rw [Event.isShown, Thresholds.showsRecord, severity_of_mem_records hr]

theorem isShown_violation (level : Nat) (v : Violation) :
    ∀ event ∈ [Event.record (.preconditionFailed v.kind v.rule v.raw.length)],
      event.isShown ⟨level, level⟩ = decide (level ≤ Severity.warning.number) := by
  intro event hevent
  rw [List.mem_singleton.1 hevent]
  rfl

theorem linesAt_violation (timestamp : Text) (v : Violation) :
    linesAt timestamp [.record (.preconditionFailed v.kind v.rule v.raw.length)] =
      "part_precondition_failed\n".toList := by
  have hline : "part_precondition_failed".toList ++ ['\n'] =
      "part_precondition_failed\n".toList := by decide +kernel
  rw [← hline]
  rfl

section Fresh

variable {inv : Invocation} {ctx : Context} {o : Outcome} {events : List Event}
  (hnone : inv.settings = none) (hfresh : ctx.thresholds = none)

include hnone in
theorem settingsFor_fst_of_none : (settingsFor inv ctx).1 = ctx.surroundings.given := by
  rw [settingsFor, hnone]
  exact congrArg Prod.fst ctx.settings_eq

include hnone hfresh in
/-- Before a level of the log is asked for, every warning is shown. -/
theorem warningsFor_of_fresh :
    warningsFor inv ctx = ctx.surroundings.malformedLines.map Event.passedOver := by
  rw [warningsFor, hnone, hfresh]
  exact List.filter_eq_self.2 fun _ _ => rfl

include hnone hfresh in
/-- A run writes its warnings first. -/
theorem errorOutput_of_fresh (timestamp : Text) (hlog : o.log = warningsFor inv ctx ++ events) :
    o.errorOutput timestamp =
      warningText ctx.surroundings ++ (linesAt timestamp events ++ o.message) := by
  rw [Outcome.errorOutput, hlog, warningsFor_of_fresh hnone hfresh, List.flatMap_append,
    List.flatMap_map, List.append_assoc]
  rfl

include hnone hfresh in
/-- After its warnings, a run writes what its level lets through. -/
theorem errorOutput_of_filter {bound : Nat} (s : Settings) (timestamp : Text)
    (hlog : o.log =
      warningsFor inv ctx ++ events.filter (Event.isShown (thresholdsFor ctx s)))
    (hevents : ∀ level, ∀ event ∈ events,
      event.isShown ⟨level, level⟩ = decide (level ≤ bound)) :
    o.errorOutput timestamp = warningText ctx.surroundings ++
      ((if Level.ofName s.logLevel ≤ bound then linesAt timestamp events else []) ++
        o.message) := by
  have hthresholds : thresholdsFor ctx s =
      ⟨Level.ofName s.logLevel, Level.ofName s.logLevel⟩ := by
    rw [thresholdsFor, hfresh]
    rfl
  rw [errorOutput_of_fresh hnone hfresh timestamp hlog, hthresholds,
    linesAt_filter timestamp (hevents _)]

end Fresh

/-! ## The shape of an ending -/

/-- The shape that an outcome has, unless the run broke off. -/
def Outcome.shape? : Outcome → Option Shape
  | .help => some .help
  | .refused _ => some .refusal
  | .rejected .. => some .rejection
  | .described .. => some .description
  | .brokenOff .. => none

/-- A violation is found for no comment. -/
theorem kind_of_find? {kind : PartKind} {raw : Text} {v : Violation}
    (h : Violation.find? kind raw = some v) : v.kind = kind ∧ kind ≠ .comment := by
  obtain ⟨rule, -, rfl⟩ := Option.map_eq_some_iff.1 h
  refine ⟨rfl, ?_⟩
  rintro rfl
  rw [Violation.find?_comment] at h
  cases h

/-- **A run that ends with an exit code has the shape of its outcome.** -/
theorem Ending.fits {inv : Invocation} {ctx : Context} {o : Outcome} (hending : Ending inv ctx o)
    (hnone : inv.settings = none) (hfresh : ctx.thresholds = none) {code : Nat}
    (hcode : o.exitCode = .ok code) (timestamp : Text) :
    ∃ shape, o.shape? = some shape ∧ shape.Fits ctx.surroundings (o.seen code timestamp) := by
  cases hending with
  | help hparse =>
    obtain rfl : 0 = code := Except.ok.inj hcode
    exact ⟨.help, rfl, rfl, rfl, rfl⟩
  | @refused refusal hparse =>
    obtain rfl : 2 = code := Except.ok.inj hcode
    exact ⟨.refusal, rfl, rfl, rfl, refusal, rfl⟩
  | invalidSettings hparse hsettings => simp [Outcome.exitCode] at hcode
  | textless hparse hsettings hraw => simp [Outcome.exitCode] at hcode
  | @rejected r s raw v hparse hsettings hraw hchecks hfound =>
    obtain rfl : 2 = code := Except.ok.inj hcode
    have hgiven := (settingsFor_fst_of_none hnone).symm.trans hsettings
    obtain ⟨hkind, hcomment⟩ := kind_of_find? hfound
    have herror := errorOutput_of_filter hnone hfresh (o := .rejected v _) s timestamp rfl
      fun level => isShown_violation level v
    rw [linesAt_violation] at herror
    exact ⟨.rejection, rfl, rfl, rfl, s, v, hgiven, hkind ▸ hcomment, herror⟩
  | @described r s raw hparse hsettings hraw hkeeps hwritable =>
    obtain rfl : 0 = code := Except.ok.inj hcode
    have hgiven := (settingsFor_fst_of_none hnone).symm.trans hsettings
    have hread : Json.read ((r.part raw).describe.print ++ []) = some (r.part raw).describe :=
      Json.read_print _ fun c hc => absurd hc List.not_mem_nil
    rw [List.append_nil] at hread
    have herror := errorOutput_of_filter hnone hfresh (o := .described (r.part raw) _)
      s timestamp rfl fun level => isShown_details level (r.part raw)
    refine ⟨.description, rfl, rfl, ⟨_, _, rfl, Json.visible_print _, hread⟩, s,
      linesAt timestamp (details (r.part raw)), hgiven, ?_⟩
    exact herror.trans (congrArg (warningText ctx.surroundings ++ ·) (List.append_nil _))
  | unwritable hparse hsettings hraw hkeeps hwritable => simp [Outcome.exitCode] at hcode

/-! ## The shape of a run -/

/-- **What can be seen of a run** that is given no settings, in a process of its own. -/
structure HasShape (argv : List Text) (input : Text) (environment : Bindings Text)
    (file : Option Text) (o : Outcome) : Prop where
  /-- It has one shape and no other, if it ends with an exit code. -/
  one : ∀ {code}, o.exitCode = .ok code → ∀ timestamp,
    ∃! shape : Shape, shape.Fits ⟨environment, file, none⟩ (o.seen code timestamp)
  /-- It has the shape of help exactly when the command line asks for help. -/
  helps : ∀ {code}, o.exitCode = .ok code → ∀ timestamp,
    (Shape.help.Fits ⟨environment, file, none⟩ (o.seen code timestamp) ↔
      parse argv = .error .help)
  /-- It has the shape of a complaint exactly when the command line is refused. -/
  complains : ∀ {code}, o.exitCode = .ok code → ∀ timestamp,
    (Shape.refusal.Fits ⟨environment, file, none⟩ (o.seen code timestamp) ↔
      ∃ refusal, parse argv = .error (.refused refusal))
  /-- Where the command line is no request, nothing else is consulted. -/
  unconsulted : ∀ {stop}, parse argv = .error stop → readsInput argv = false ∧
    ∀ input' settings ctx, run ⟨argv, input', settings⟩ ctx = (o, ctx)
  /-- Settings that cannot be read are reported for a request only, with nothing but warnings
  printed. -/
  invalid : ∀ {issues log}, o = .brokenOff (.invalidSettings issues) log →
    (∃ r, parse argv = .ok r) ∧ o.output = [] ∧
      ∀ timestamp, o.errorOutput timestamp = warningText ⟨environment, file, none⟩
  /-- A text is rejected for a rule of the kind that was asked for, which is not that of
  comments. -/
  rejects : ∀ {v log}, o = .rejected v log → ∃ r, parse argv = .ok r ∧
    (∃ raw, r.raw? input = some raw ∧ Violation.find? r.kind raw = some v) ∧ r.kind ≠ .comment
  /-- Nothing is printed by a run that ends with two. -/
  quiet : o.exitCode = .ok 2 → o.output = []

section Endings

variable {inv : Invocation} {ctx : Context} {o : Outcome}

theorem Ending.shape?_eq_help_iff (hending : Ending inv ctx o) :
    o.shape? = some .help ↔ parse inv.argv = .error .help := by
  cases hending with
  | help hparse => simp [hparse, Outcome.shape?]
  | refused hparse => simp [hparse, Outcome.shape?]
  | invalidSettings hparse hsettings => simp [hparse, Outcome.shape?]
  | textless hparse hsettings hraw => simp [hparse, Outcome.shape?]
  | rejected hparse hsettings hraw hchecks hfound => simp [hparse, Outcome.shape?]
  | described hparse hsettings hraw hkeeps hwritable => simp [hparse, Outcome.shape?]
  | unwritable hparse hsettings hraw hkeeps hwritable => simp [hparse, Outcome.shape?]

theorem Ending.shape?_eq_refusal_iff (hending : Ending inv ctx o) :
    o.shape? = some .refusal ↔ ∃ refusal, parse inv.argv = .error (.refused refusal) := by
  cases hending with
  | help hparse => simp [hparse, Outcome.shape?]
  | refused hparse => simp [hparse, Outcome.shape?]
  | invalidSettings hparse hsettings => simp [hparse, Outcome.shape?]
  | textless hparse hsettings hraw => simp [hparse, Outcome.shape?]
  | rejected hparse hsettings hraw hchecks hfound => simp [hparse, Outcome.shape?]
  | described hparse hsettings hraw hkeeps hwritable => simp [hparse, Outcome.shape?]
  | unwritable hparse hsettings hraw hkeeps hwritable => simp [hparse, Outcome.shape?]

/-- The shape of the outcome is the only one that fits what is seen. -/
theorem Ending.fits_iff (hending : Ending inv ctx o) (hnone : inv.settings = none)
    (hfresh : ctx.thresholds = none) {code : Nat} (hcode : o.exitCode = .ok code)
    (timestamp : Text) {shape : Shape} :
    shape.Fits ctx.surroundings (o.seen code timestamp) ↔ o.shape? = some shape := by
  obtain ⟨found, hfound, hfits⟩ := hending.fits hnone hfresh hcode timestamp
  rw [hfound, Option.some.injEq]
  constructor
  · intro h
    rw [h.eq_ofSeen, hfits.eq_ofSeen]
  · rintro rfl
    exact hfits

theorem Ending.of_invalidSettings {issues : List Issue} {log : List Event}
    (hending : Ending inv ctx (.brokenOff (.invalidSettings issues) log)) :
    (∃ r, parse inv.argv = .ok r) ∧ log = warningsFor inv ctx := by
  cases hending with
  | invalidSettings hparse hsettings => exact ⟨⟨_, hparse⟩, rfl⟩

theorem Ending.of_rejected {v : Violation} {log : List Event}
    (hending : Ending inv ctx (.rejected v log)) :
    ∃ r raw, parse inv.argv = .ok r ∧ r.raw? inv.input = some raw ∧
      Violation.find? r.kind raw = some v := by
  cases hending with
  | rejected hparse hsettings hraw hchecks hfound => exact ⟨_, _, hparse, hraw, hfound⟩

end Endings

/-- **Every run has its shape.** Whatever the command line, the input, the environment and the
environment file are, a run that is given no settings and ends with an exit code has exactly one of
the four shapes, and help and complaints are decided by the command line alone. -/
theorem run_has_shape (argv : List Text) (input : Text) (environment : Bindings Text)
    (file : Option Text) :
    HasShape argv input environment file
      (run ⟨argv, input, none⟩ (Context.start environment file)).1 := by
  have hending := ending ⟨argv, input, none⟩ (Context.start environment file)
  constructor
  case one =>
    intro code hcode timestamp
    obtain ⟨shape, -, hshape⟩ := hending.fits rfl rfl hcode timestamp
    exact ⟨shape, hshape, fun other hother => hother.eq_ofSeen.trans hshape.eq_ofSeen.symm⟩
  case helps =>
    intro code hcode timestamp
    exact (hending.fits_iff rfl rfl hcode timestamp).trans hending.shape?_eq_help_iff
  case complains =>
    intro code hcode timestamp
    exact (hending.fits_iff rfl rfl hcode timestamp).trans hending.shape?_eq_refusal_iff
  case unconsulted =>
    intro stop hstop
    refine ⟨?_, ?_⟩
    · rw [readsInput, hstop]
    · intro input' settings ctx
      simp only [run, hstop]
      cases stop <;> rfl
  case invalid =>
    intro issues log houtcome
    rw [houtcome] at hending ⊢
    obtain ⟨hrequest, hlog⟩ := hending.of_invalidSettings
    refine ⟨hrequest, rfl, fun timestamp => ?_⟩
    have hwarned : (Outcome.brokenOff (.invalidSettings issues) log).log =
        warningsFor ⟨argv, input, none⟩ (Context.start environment file) ++ [] := by
      rw [List.append_nil]
      exact hlog
    exact (errorOutput_of_fresh rfl rfl timestamp hwarned).trans (List.append_nil _)
  case rejects =>
    intro v log houtcome
    rw [houtcome] at hending
    obtain ⟨r, raw, hparse, hraw, hfound⟩ := hending.of_rejected
    exact ⟨r, hparse, ⟨raw, hraw, hfound⟩, (kind_of_find? hfound).2⟩
  case quiet =>
    intro hcode
    cases houtcome : (run ⟨argv, input, none⟩ (Context.start environment file)).1 with
    | help => simp [houtcome, Outcome.exitCode] at hcode
    | described part log => simp [houtcome, Outcome.exitCode] at hcode
    | _ => rfl

/-- At the default level, a run that describes its part may still write to the error output: a
warning for a malformed line of the environment file. -/
theorem described_with_warning :
    ∃ o, (run ⟨["kind".toList, "@x".toList], [], none⟩ (Context.start [] (some "=x\n".toList))).1 =
        o ∧
      o.exitCode = .ok 0 ∧ o ≠ .help ∧
      (Surroundings.given ⟨[], some "=x\n".toList, none⟩).toOption = some ⟨true, "info".toList⟩ ∧
      Level.ofName "info".toList = Severity.info.number ∧
      o.errorOutput [] =
        "python-dotenv could not parse statement starting at line 1\n".toList := by
  refine ⟨_, rfl, ?_⟩
  decide +kernel

end DocTag.CommandLine
