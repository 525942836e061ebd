import Promotion.Proofs.OneClass
/-!
# What a run logs

The log of a run and its report are made side by side, class by class, and this says that they tell the same.
`Param.Logs` and `ClassDecl.Logs` give the lines that belong to a parameter and to a marked class, in terms of the text
of the tree: which markers stand where, what the parameters bind and where the base constructor is called.  The second
of them ties the lines of a class to what the report has on it.

Every class logs for itself (`ClassDecl.logs_report`), and a class without a marker neither logs nor reports anything
(`Module.flatMap_report`).  So the log of a run consists of the lines of its marked classes, those of one class together
and in the order of the classes, between an opening and a closing that speak of the run as a whole.
-/
namespace Promotion

/-! ## Reading the log -/

namespace LogLine

/-- The property that a line of the trace level names. -/
def property? : LogLine → Option String
  | .message .trace _ fields =>
    match fields.lookup "property" with
    | some (.text n) => some n
    | _ => none
  | _ => none

/-- The line and the column that a warning gives. -/
def place? : LogLine → Option (Nat × Nat)
  | .message .warn _ fields =>
    match fields.lookup "line", fields.lookup "column" with
    | some (.number l), some (.number c) => some (l, c)
    | _, _ => none
  | _ => none

end LogLine

/-- The line and the column of a parameter that was skipped. -/
def Skipped.place {ν : Type} (k : Skipped ν) : Nat × Nat := (k.span.line.toNat, k.span.column.toNat)

/-! ## The lines of a parameter and of a class -/

/-- The lines about a parameter of the marked class `c`. -/
inductive Param.Logs (s : Settings) (c : String) (p : Param String) : List LogLine → Prop where
  | promoted {id : Ident String} : p.pattern = .ident id →
    (Decorator.mention paramMarkerName p.decorators = true ∨ s.eligibility = .allParameters) →
    Logs s c p [.message .trace "promoting parameter" [("class", .text c), ("property", .text id.name)]]
  | skipped {shape : Shape} : p.pattern.shape? = some shape → Decorator.mention paramMarkerName p.decorators = true →
    Logs s c p [.message .warn ("cannot promote " ++ shape.text ++ "; parameter left unchanged")
      [("class", .text c), ("line", .number p.span.line.toNat), ("column", .number p.span.column.toNat)]]
  | passed : Decorator.mention paramMarkerName p.decorators = false →
    (s.eligibility = .perParameter ∨ p.pattern.shape?.isSome = true) → Logs s c p []

/-- The lines about the marked class `d`, beside the result that is reported on it. -/
inductive ClassDecl.Logs (s : Settings) (d : ClassDecl String) :
    Except (NoConstructorError String) (Outcome String) → List LogLine → Prop where
  | promoted {before after : List (Member String)} {c : Ctor String} {front back : List (Stmt String)}
      {details : Promoted String} {groups : List (List LogLine)} :
    d.members = before ++ .ctor c :: after → (∀ x ∈ before, ∀ c, x ≠ .ctor c) →
    c.body.statements = front ++ back → Divided front back details.superCall →
    List.Forall₂ (Param.Logs s d.name.name) c.params groups →
    groups.flatten.filterMap LogLine.property? = details.properties →
    groups.flatten.filterMap LogLine.place? = details.skipped.map Skipped.place →
    Logs s d (.ok (.promoted details)) (groups.flatten ++
      [.message .debug "applied parameter properties"
        [("class", .text d.name.name), ("promoted", .number details.properties.length),
          ("super_call", .text (Event.indexText details.superCall))]])
  | noConstructor : (∀ x ∈ d.members, ∀ c, x ≠ .ctor c) → s.missingConstructor = .ignore →
    Logs s d (.ok (.noConstructor d.name.name d.span))
      [.message .debug "marked class has no constructor" [("class", .text d.name.name)]]
  | error : (∀ x ∈ d.members, ∀ c, x ≠ .ctor c) → s.missingConstructor = .error →
    Logs s d (.error ⟨d.name.name, d.span⟩) []

/-! ## One parameter -/

namespace Param

variable (s : Settings) (c : String) (p : Param String)

theorem promoted?_textRules : p.promoted? s.textRules =
    if Decorator.mention paramMarkerName p.decorators = true ∨ s.eligibility = .allParameters then p.ident?
    else none := by
  have he : s.textRules.settings = s := rfl
  unfold Param.promoted?
  rw [p.isMarked_textRules s, he]
  simp

theorem skipped?_textRules : p.skipped? s.textRules =
    if Decorator.mention paramMarkerName p.decorators = true then p.pattern.shape? else none := by
  unfold Param.skipped?
  rw [p.isMarked_textRules s]

/-- A parameter binds a single name or has a shape that binds none. -/
theorem ident_or_shape : (∃ id, p.pattern = .ident id ∧ p.ident? = some id ∧ p.pattern.shape? = none) ∨
    ∃ shape, p.pattern.shape? = some shape ∧ p.ident? = none := by
  unfold Param.ident?
  cases p.pattern with
  | ident id => exact .inl ⟨id, rfl, rfl, rfl⟩
  | _ => exact .inr ⟨_, rfl, rfl⟩

/-- **The lines of a parameter.** -/
theorem logs_event? : p.Logs s c ((p.event? s.textRules c).toList.map Event.line) := by
  unfold Param.event?
  rw [promoted?_textRules, skipped?_textRules]
  rcases p.ident_or_shape with ⟨id, hp, hi, hs⟩ | ⟨shape, hs, hi⟩
  · by_cases he : Decorator.mention paramMarkerName p.decorators = true ∨ s.eligibility = .allParameters
    · rw [if_pos he, hi]
      exact .promoted hp he
    · obtain ⟨hm, ha⟩ := not_or.1 he
      have hs' : s.eligibility = .perParameter := by
        cases h : s.eligibility with
        | perParameter => rfl
        | allParameters => exact absurd h ha
      rw [if_neg he, hs, ite_self]
      exact .passed (Bool.eq_false_iff.2 hm) (.inl hs')
  · rw [hi, ite_self]
    by_cases hm : Decorator.mention paramMarkerName p.decorators = true
    · rw [if_pos hm, hs]
      exact .skipped hs hm
    · rw [if_neg hm]
      exact .passed (Bool.eq_false_iff.2 hm) (.inr (by rw [hs]; rfl))

/-- A line that names a property is about a parameter that is promoted to it. -/
theorem property?_event? :
    (p.event? s.textRules c).bind (·.line.property?) = (p.promoted? s.textRules).map (·.name) := by
  unfold Param.event?
  cases p.promoted? s.textRules with
  | some id => rfl
  | none => cases p.skipped? s.textRules <;> rfl

/-- A warning that gives a place is about a parameter that is skipped there. -/
theorem place?_event? : (p.event? s.textRules c).bind (·.line.place?) =
    (p.skipped? s.textRules).map fun shape => (Skipped.mk c shape p.span).place := by
  unfold Param.event?
  cases hp : p.promoted? s.textRules with
  | some id =>
    -- a parameter that is promoted binds a single name, and is not skipped
    have hs : p.skipped? s.textRules = none := by
      rw [Param.skipped?, shape?_of_promoted? _ hp, ite_self]
    rw [hs]
    rfl
  | none => cases p.skipped? s.textRules <;> rfl

end Param

/-! ## One class -/

namespace ClassDecl

variable {s : Settings} {d : ClassDecl String}

theorem isNone_marker?_of_mention (h : Decorator.mention classMarkerName d.decorators = true) :
    (d.marker? s.textRules.markers).isNone = false := by
  rw [isNone_marker?_textRules, h]
  rfl

/-- **The lines of a marked class**, and what is reported on it. -/
theorem logs_report (h : Decorator.mention classMarkerName d.decorators = true) :
    d.Logs s (d.report s.textRules).result ((d.report s.textRules).events.map Event.line) := by
  have hm : (d.marker? s.textRules.markers).isNone = false := isNone_marker?_of_mention h
  unfold ClassDecl.report
  cases hc : d.ctor? with
  | some c =>
    obtain ⟨before, after, hd, hb⟩ := Member.exists_append_of_ctor? hc
    obtain ⟨front, back, hs, hdiv⟩ := exists_divided c.body.statements
    let groups := c.params.map fun p => (p.event? s.textRules d.name.name).toList.map Event.line
    have hf : groups.flatten = (c.params.filterMap (·.event? s.textRules d.name.name)).map Event.line := by
      rw [List.filterMap_eq_flatMap_toList, List.map_flatMap]
      rfl
    have hg : List.Forall₂ (Param.Logs s d.name.name) c.params groups :=
      List.forall₂_map_right_iff.2 (List.forall₂_same.2 fun p _ => p.logs_event? s d.name.name)
    have hp : groups.flatten.filterMap LogLine.property? = (d.promoted s.textRules c).properties := by
      rw [hf, List.filterMap_map, List.filterMap_filterMap, promoted, Ctor.promoted, List.map_filterMap]
      exact List.filterMap_congr fun p _ => p.property?_event? s d.name.name
    have hk : groups.flatten.filterMap LogLine.place? = (d.promoted s.textRules c).skipped.map Skipped.place := by
      rw [hf, List.filterMap_map, List.filterMap_filterMap, promoted, List.map_filterMap]
      refine List.filterMap_congr fun p _ => ?_
      rw [Option.map_map]
      exact p.place?_event? s d.name.name
    rw [promote_of_ctor hm hc, List.map_append, ← hf]
    exact .promoted hd hb hs hdiv hg hp hk
  | none =>
    have hn := Member.ctor?_eq_none_iff.1 hc
    rw [promote_of_noCtor hm hc]
    cases hs : s.textRules.settings.missingConstructor with
    | ignore => exact .noConstructor hn hs
    | error => exact .error hn hs

theorem Logs.filterMap_property? {g : ClassReport String} {lines : List LogLine} (h : d.Logs s g.result lines) :
    lines.filterMap LogLine.property? = g.outcome?.toList.flatMap Outcome.properties := by
  obtain ⟨result, events⟩ := g
  cases h with
  | promoted _ _ _ _ _ hp _ =>
    rw [List.filterMap_append, hp]
    rfl
  | noConstructor => rfl
  | error => rfl

theorem Logs.filterMap_place? {g : ClassReport String} {lines : List LogLine} (h : d.Logs s g.result lines) :
    lines.filterMap LogLine.place? = (g.outcome?.toList.flatMap Outcome.skipped).map Skipped.place := by
  obtain ⟨result, events⟩ := g
  cases h with
  | @promoted _ _ _ _ _ details _ _ _ _ _ _ _ hk =>
    have hs : [Outcome.promoted details].flatMap Outcome.skipped = details.skipped := List.append_nil _
    rw [List.filterMap_append, hk]
    exact (List.append_nil _).trans (congrArg (List.map Skipped.place) hs.symm)
  | noConstructor => rfl
  | error => rfl

end ClassDecl

/-! ## The run -/

/-- The classes of a module that carry the class marker, at any depth and in the order of the listing. -/
def Module.marked (q : Module String) : List (ClassDecl String) :=
  q.classDecls.filter (Decorator.mention classMarkerName ·.decorators)

section Run

variable (s : Settings) (q : Module String)

/-- A class without a marker adds nothing to what is read off the reports on the classes. -/
theorem Module.flatMap_report {β : Type} (view : ClassReport String → List β) (hv : view ⟨.ok .untouched, []⟩ = []) :
    q.classDecls.flatMap (fun d => view (d.report s.textRules)) =
      (q.marked.map (ClassDecl.report s.textRules)).flatMap view := by
  unfold Module.marked
  rw [List.flatMap_map]
  induction q.classDecls with
  | nil => rfl
  | cons d ds ih =>
    by_cases hm : Decorator.mention classMarkerName d.decorators = true
    · have hf : (d :: ds).filter (Decorator.mention classMarkerName ·.decorators) =
          d :: ds.filter (Decorator.mention classMarkerName ·.decorators) := List.filter_cons_of_pos hm
      rw [hf, List.flatMap_cons, List.flatMap_cons, ih]
    · have hf : (d :: ds).filter (Decorator.mention classMarkerName ·.decorators) =
          ds.filter (Decorator.mention classMarkerName ·.decorators) := List.filter_cons_of_neg hm
      have hn : (d.marker? s.textRules.markers).isNone = true := by
        rw [ClassDecl.isNone_marker?_textRules, Bool.eq_false_iff.2 hm]
        rfl
      have hr : d.report s.textRules = ⟨.ok .untouched, []⟩ := congrArg Prod.snd (ClassDecl.promote_of_unmarked hn)
      rw [hf, List.flatMap_cons, hr, hv, List.nil_append, ih]

theorem Module.outcomes_eq_marked (file : String) : (q.promote s.textRules file).2.outcomes =
    (q.marked.map (ClassDecl.report s.textRules)).filterMap (·.outcome?) := by
  rw [Module.outcomes_promote, List.filterMap_eq_flatMap_toList, List.filterMap_eq_flatMap_toList]
  exact q.flatMap_report s (fun g => g.outcome?.toList) rfl

theorem Module.errors_eq_marked (file : String) : (q.promote s.textRules file).2.errors =
    (q.marked.map (ClassDecl.report s.textRules)).filterMap (·.error?) := by
  rw [Module.errors_promote, List.filterMap_eq_flatMap_toList, List.filterMap_eq_flatMap_toList]
  exact q.flatMap_report s (fun g => g.error?.toList) rfl

/-- **The log of a run**, with the lines of the marked classes left as they are. -/
theorem Module.map_line_events (file : String) : (q.promote s.textRules file).2.events.map Event.line =
    [.opened .debug "param_properties" [("file", .text file)]] ++
    (if s.eligibility = .allParameters then
      [.message .warn "eligibility = \"all-parameters\" is deprecated; mark parameters with @pp instead" []] else []) ++
    (q.marked.map (ClassDecl.report s.textRules)).flatMap (fun g => g.events.map Event.line) ++
    [.message .debug "pass complete"
      [("classes", .number (q.promote s.textRules file).2.classCount),
        ("properties", .number (q.promote s.textRules file).2.propertyCount),
        ("errors", .number (q.promote s.textRules file).2.errors.length)],
      .closed "param_properties"] := by
  have hg : q.classDecls.flatMap (fun d => (d.report s.textRules).events.map Event.line) =
      (q.marked.map (ClassDecl.report s.textRules)).flatMap (fun g => g.events.map Event.line) :=
    q.flatMap_report s (fun g => g.events.map Event.line) rfl
  have he : s.textRules.settings = s := rfl
  rw [Module.events_promote, List.map_append, List.map_append, List.map_cons, List.map_flatMap, hg, he]
  split <;> rfl

/-- What is read off the lines of a run is read off those of its marked classes, if the lines that speak of the run as a
whole have nothing to give. -/
theorem Module.filterMap_line_events {β : Type} (file : String) (read : LogLine → Option β)
    (ho : read (.opened .debug "param_properties" [("file", .text file)]) = none)
    (hw : ∀ text, read (.message .warn text []) = none) (hd : ∀ text fields, read (.message .debug text fields) = none)
    (hc : read (.closed "param_properties") = none) :
    ((q.promote s.textRules file).2.events.map Event.line).filterMap read =
      q.marked.flatMap fun d => ((d.report s.textRules).events.map Event.line).filterMap read := by
  rw [map_line_events, List.filterMap_append, List.filterMap_append, List.filterMap_append, List.flatMap_map,
    List.filterMap_flatMap]
  split <;> simp [ho, hw, hd, hc]

end Run

/-- **The log agrees with the report.**  Between its opening and its closing, the log of a run has first, if all
parameters are promoted, the warning that this is deprecated; then the lines of the marked classes, class by class, each
with what is reported on that class; and then the totals of the report.  The properties that its lines name are the
properties of the outcomes, and the places that its warnings give are those of the skipped parameters, in order. -/
theorem Module.log_agrees_with_report (t : NameTable) (s : Settings) (file : String) {p : Module Symbol}
    {q : Module String} (h : p.mapNames t.resolve = .ok q) :
    ∃ (R : Report String) (groups : List (ClassReport String)),
      (p.promote (s.rules t) file).2.mapNames t.resolve = .ok R ∧
      List.Forall₂ (fun d g => d.Logs s g.result (g.events.map Event.line)) q.marked groups ∧
      R.outcomes = groups.filterMap (·.outcome?) ∧ R.errors = groups.filterMap (·.error?) ∧
      R.events.map Event.line =
        [.opened .debug "param_properties" [("file", .text file)]] ++
        (if s.eligibility = .allParameters then
          [.message .warn "eligibility = \"all-parameters\" is deprecated; mark parameters with @pp instead" []]
          else []) ++
        groups.flatMap (fun g => g.events.map Event.line) ++
        [.message .debug "pass complete"
          [("classes", .number R.classCount), ("properties", .number R.propertyCount),
            ("errors", .number R.errors.length)],
          .closed "param_properties"] ∧
      (R.events.map Event.line).filterMap LogLine.property? = R.outcomes.flatMap Outcome.properties ∧
      (R.events.map Event.line).filterMap LogLine.place? = R.skipped.map Skipped.place := by
  obtain ⟨-, hR⟩ := Module.promote_named (s.rules_named t) h file
  have hl : ∀ d ∈ q.marked, d.Logs s (d.report s.textRules).result ((d.report s.textRules).events.map Event.line) :=
    fun d hd => ClassDecl.logs_report (List.mem_filter.1 hd).2
  have ho := q.outcomes_eq_marked s file
  refine ⟨_, q.marked.map (ClassDecl.report s.textRules), hR, ?_, ho, q.errors_eq_marked s file,
    q.map_line_events s file, ?_, ?_⟩
  · exact List.forall₂_map_right_iff.2 (List.forall₂_same.2 hl)
  · rw [q.filterMap_line_events s file _ rfl (fun _ => rfl) (fun _ _ => rfl) rfl, ho,
      List.filterMap_eq_flatMap_toList, List.flatMap_assoc, List.flatMap_map]
    exact List.flatMap_congr fun d hd => (hl d hd).filterMap_property?
  · unfold Report.skipped
    rw [q.filterMap_line_events s file _ rfl (fun _ => rfl) (fun _ _ => rfl) rfl, ho,
      List.filterMap_eq_flatMap_toList, List.flatMap_assoc, List.flatMap_map, List.map_flatMap]
    exact List.flatMap_congr fun d hd => (hl d hd).filterMap_place?

/-- A class without a constructor, and in it one with a name and a rest parameter that are both marked: every kind of
line is logged. -/
theorem Module.log_agrees_with_report_ofName :
    let t := NameTable.ofMarkerNames
    let s : Settings := ⟨.allParameters, .ignore⟩
    let p := Module.ofName ⟨2, by decide⟩ [⟨.ident ⟨default, default⟩, default⟩]
    let q := Module.ofName classMarkerName [⟨.ident ⟨paramMarkerName, default⟩, default⟩]
    p.mapNames t.resolve = .ok q ∧ (p.promote (s.rules t) "").2.events.length = 8 ∧
    ∃ (R : Report String) (groups : List (ClassReport String)),
      (p.promote (s.rules t) "").2.mapNames t.resolve = .ok R ∧
      List.Forall₂ (fun d g => d.Logs s g.result (g.events.map Event.line)) q.marked groups ∧
      R.outcomes = groups.filterMap (·.outcome?) ∧ R.errors = groups.filterMap (·.error?) ∧
      R.events.map Event.line =
        [.opened .debug "param_properties" [("file", .text "")]] ++
        [.message .warn "eligibility = \"all-parameters\" is deprecated; mark parameters with @pp instead" []] ++
        groups.flatMap (fun g => g.events.map Event.line) ++
        [.message .debug "pass complete"
          [("classes", .number R.classCount), ("properties", .number R.propertyCount),
            ("errors", .number R.errors.length)],
          .closed "param_properties"] ∧
      (R.events.map Event.line).filterMap LogLine.property? = R.outcomes.flatMap Outcome.properties ∧
      (R.events.map Event.line).filterMap LogLine.place? = R.skipped.map Skipped.place :=
  ⟨rfl, by rw [Settings.rules, NameTable.markers_ofMarkerNames]; rfl,
    Module.log_agrees_with_report .ofMarkerNames ⟨.allParameters, .ignore⟩ "" rfl⟩

end Promotion
