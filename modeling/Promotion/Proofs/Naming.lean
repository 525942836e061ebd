import Promotion.Proofs.Names
import Promotion.Proofs.Run
/-!
# Promotion goes by names alone

Promotion compares names of the tree with the markers and with nothing else.  So a run over a tree under other names
comes to the same tree and the same report under these names (`Module.promote_named`), provided that the markers are
the same names on both sides (`Rules.Named`).

Symbols are names in this sense, and so is text.  A marker is compared as a symbol in a tree of symbols, and as its text
in the tree that these resolve to; that a table knows a symbol for it or none makes no difference, because a name that
has no symbol stands nowhere in the tree (`Settings.rules_named`).  A run over symbols is thus the run over the text
that they resolve to, whatever the numbers are.
-/
namespace Promotion

variable {ν μ ε : Type} {f : ν → Except ε μ}

/-! ## Reports under other names -/

theorem Skipped.mapNames_eq_ok_iff {x : Skipped ν} {x' : Skipped μ} :
    x.mapNames f = .ok x' ↔ f x.className = .ok x'.className ∧ x.shape = x'.shape ∧ x.span = x'.span := by
  cases x
  cases x'
  simp [Skipped.mapNames, bind_eq_ok_iff, pure, Except.pure]

theorem Promoted.mapNames_eq_ok_iff {p : Promoted ν} {p' : Promoted μ} :
    p.mapNames f = .ok p' ↔ f p.className = .ok p'.className ∧ p.span = p'.span ∧
      List.Forall₂ (Yields f) p.properties p'.properties ∧ p.superCall = p'.superCall ∧
      List.Forall₂ (Yields (Skipped.mapNames f)) p.skipped p'.skipped := by
  rw [← mapM_eq_ok_iff, ← mapM_eq_ok_iff]
  cases p
  cases p'
  simp only [Promoted.mapNames, bind_eq_ok_iff, pure, Except.pure, Except.ok.injEq, Promoted.mk.injEq]
  constructor
  · rintro ⟨c, hc, ps, hp, xs, hx, rfl, hs, rfl, hi, rfl⟩
    exact ⟨hc, hs, hp, hi, hx⟩
  · rintro ⟨hc, hs, hp, hi, hx⟩
    exact ⟨_, hc, _, hp, _, hx, rfl, hs, rfl, hi, rfl⟩

theorem NoConstructorError.mapNames_eq_ok_iff {e : NoConstructorError ν} {e' : NoConstructorError μ} :
    e.mapNames f = .ok e' ↔ f e.className = .ok e'.className ∧ e.span = e'.span := by
  cases e
  cases e'
  simp [NoConstructorError.mapNames, bind_eq_ok_iff, pure, Except.pure]

/-- An outcome under other names is an outcome of the same kind. -/
theorem Outcome.mapNames_cases {o : Outcome ν} {o' : Outcome μ} (h : o.mapNames f = .ok o') :
    o = .untouched ∧ o' = .untouched ∨
    (∃ c c' s, f c = .ok c' ∧ o = .noConstructor c s ∧ o' = .noConstructor c' s) ∨
    ∃ p p', p.mapNames f = .ok p' ∧ o = .promoted p ∧ o' = .promoted p' := by
  cases o with
  | untouched => exact .inl ⟨rfl, (Except.ok.inj h).symm⟩
  | noConstructor c s =>
    obtain ⟨c', hc, rfl⟩ := map_eq_ok_iff.1 ((map_eq_pure_bind (Outcome.noConstructor · s) _).trans h)
    exact .inr (.inl ⟨c, c', s, hc, rfl, rfl⟩)
  | promoted p =>
    obtain ⟨p', hp, rfl⟩ := map_eq_ok_iff.1 ((map_eq_pure_bind Outcome.promoted _).trans h)
    exact .inr (.inr ⟨p, p', hp, rfl, rfl⟩)

theorem Outcome.properties_rel {o : Outcome ν} {o' : Outcome μ} (h : o.mapNames f = .ok o') :
    List.Forall₂ (Yields f) o.properties o'.properties := by
  obtain ⟨rfl, rfl⟩ | ⟨_, _, _, -, rfl, rfl⟩ | ⟨p, p', hp, rfl, rfl⟩ := Outcome.mapNames_cases h
  · exact .nil
  · exact .nil
  · exact (Promoted.mapNames_eq_ok_iff.1 hp).2.2.1

theorem Outcome.isPromoted_eq {o : Outcome ν} {o' : Outcome μ} (h : o.mapNames f = .ok o') :
    o.isPromoted = o'.isPromoted := by
  obtain ⟨rfl, rfl⟩ | ⟨_, _, _, -, rfl, rfl⟩ | ⟨p, p', -, rfl, rfl⟩ := Outcome.mapNames_cases h <;> rfl

namespace Report

variable {R : Report ν} {R' : Report μ}

theorem mapNames_eq_ok_iff :
    R.mapNames f = .ok R' ↔ R.file = R'.file ∧ List.Forall₂ (Yields (Outcome.mapNames f)) R.outcomes R'.outcomes ∧
      List.Forall₂ (Yields (NoConstructorError.mapNames f)) R.errors R'.errors ∧
      List.Forall₂ (Yields (Event.mapNames f)) R.events R'.events := by
  rw [← mapM_eq_ok_iff, ← mapM_eq_ok_iff, ← mapM_eq_ok_iff]
  cases R
  cases R'
  simp only [Report.mapNames, bind_eq_ok_iff, pure, Except.pure, Except.ok.injEq, Report.mk.injEq]
  constructor
  · rintro ⟨os, ho, es, he, vs, hv, hf, rfl, rfl, rfl⟩
    exact ⟨hf, ho, he, hv⟩
  · rintro ⟨hf, ho, he, hv⟩
    exact ⟨_, ho, _, he, _, hv, hf, rfl, rfl, rfl⟩

variable (h : List.Forall₂ (Yields (Outcome.mapNames f)) R.outcomes R'.outcomes)

include h

theorem classCount_eq : R.classCount = R'.classCount := by
  have he : R.outcomes.map Outcome.isPromoted = R'.outcomes.map Outcome.isPromoted :=
    map_eq_of_forall₂ h fun _ _ => Outcome.isPromoted_eq
  have hc := congrArg (List.countP id) he
  rw [List.countP_map, List.countP_map] at hc
  exact hc

theorem propertyCount_eq : R.propertyCount = R'.propertyCount :=
  (List.rel_flatMap h fun _ _ => Outcome.properties_rel).length_eq

end Report

/-- What two reports on one class add to the report of a run is the same under the names that `f` gives. -/
structure ClassReport.Named (f : ν → Except ε μ) (c : ClassReport ν) (c' : ClassReport μ) : Prop where
  outcome? : Option.Rel (Yields (Outcome.mapNames f)) c.outcome? c'.outcome?
  error? : Option.Rel (Yields (NoConstructorError.mapNames f)) c.error? c'.error?
  events : List.Forall₂ (Yields (Event.mapNames f)) c.events c'.events

/-! ## Rules under other names -/

/-- `r'` are the rules `r` under the names that `f` gives: a name is a marker for `r` if and only if what `f` makes of
it is one for `r'`. -/
structure Rules.Named (f : ν → Except ε μ) (r : Rules ν) (r' : Rules μ) : Prop where
  settings : r.settings = r'.settings
  onClass {y : ν} {y' : μ} : f y = .ok y' → (r.markers.onClass = some y ↔ r'.markers.onClass = some y')
  onParam {y : ν} {y' : μ} : f y = .ok y' → (r.markers.onParam = some y ↔ r'.markers.onParam = some y')

section Promotion

variable [DecidableEq ν] [DecidableEq μ]

namespace Decorator

theorem isMarker_iff {mk : Option ν} {d : Decorator ν} :
    d.isMarker mk = true ↔ ∃ y, d.bareName = some y ∧ mk = some y := by
  unfold Decorator.isMarker
  cases mk with
  | none => simp
  | some n => cases d.bareName <;> simp

section Marker

variable {mk : Option ν} {mk' : Option μ} (hm : ∀ {y y'}, f y = .ok y' → (mk = some y ↔ mk' = some y'))

include hm

theorem isMarker_eq {d : Decorator ν} {d' : Decorator μ} (h : d.mapNames f = .ok d') :
    d.isMarker mk = d'.isMarker mk' := by
  have hb := bareName_rel h
  rw [Bool.eq_iff_iff, isMarker_iff, isMarker_iff]
  generalize d.bareName = b at hb
  generalize d'.bareName = b' at hb
  cases hb with
  | none => simp
  | some hy => simp [hm hy]

variable {ds : List (Decorator ν)} {ds' : List (Decorator μ)} (h : List.Forall₂ (Yields (Decorator.mapNames f)) ds ds')

include h

theorem strip_rel : List.Forall₂ (Yields (Decorator.mapNames f)) (strip mk ds) (strip mk' ds') :=
  List.rel_filter (fun d d' hd => by simp [isMarker_eq hm hd]) h

theorem any_isMarker_eq : ds.any (·.isMarker mk) = ds'.any (·.isMarker mk') := by
  have he : ds.map (·.isMarker mk) = ds'.map (·.isMarker mk') := map_eq_of_forall₂ h fun _ _ hd => isMarker_eq hm hd
  have ha := congrArg (List.any · id) he
  rw [List.any_map, List.any_map] at ha
  exact ha

end Marker

end Decorator

variable {r : Rules ν} {r' : Rules μ} (hr : r.Named f r')

include hr

namespace Param

variable {p : Param ν} {p' : Param μ} (h : p.mapNames f = .ok p')

include h

theorem isMarked_eq : p.isMarked r.markers = p'.isMarked r'.markers :=
  Decorator.any_isMarker_eq hr.onParam (Param.mapNames_eq_ok_iff.1 h).1

theorem promoted?_rel : Option.Rel (Yields (Ident.mapNames f)) (p.promoted? r) (p'.promoted? r') := by
  unfold Param.promoted?
  rw [isMarked_eq hr h, hr.settings]
  split
  · exact ident?_rel h
  · exact .none

theorem skipped?_eq : p.skipped? r = p'.skipped? r' := by
  unfold Param.skipped?
  rw [isMarked_eq hr h, Pattern.shape?_eq (Param.mapNames_eq_ok_iff.1 h).2.1]

theorem mapNames_promote : (p.promote r).mapNames f = .ok (p'.promote r') := by
  unfold Param.promote
  rw [isSome_eq_of_rel (promoted?_rel hr h)]
  split
  · obtain ⟨hd, hp⟩ := Param.mapNames_eq_ok_iff.1 h
    exact Param.mapNames_eq_ok_iff.2 ⟨Decorator.strip_rel hr.onParam hd, hp⟩
  · exact h

theorem event?_rel {c : ν} {c' : μ} (hc : f c = .ok c') :
    Option.Rel (Yields (Event.mapNames f)) (p.event? r c) (p'.event? r' c') := by
  have hp := promoted?_rel hr h
  unfold Param.event?
  rw [skipped?_eq hr h, (Param.mapNames_eq_ok_iff.1 h).2.2.2]
  generalize p.promoted? r = x at hp
  generalize p'.promoted? r' = x' at hp
  cases hp with
  | some hid =>
    have hn := (Ident.mapNames_eq_ok_iff.1 hid).1
    exact .some (bind_eq_ok_iff.2 ⟨c', hc, bind_eq_ok_iff.2 ⟨_, hn, rfl⟩⟩)
  | none =>
    cases p'.skipped? r' with
    | some shape => exact .some (bind_eq_ok_iff.2 ⟨c', hc, rfl⟩)
    | none => exact .none

end Param

namespace Ctor

variable {c : Ctor ν} {c' : Ctor μ} (h : c.mapNames f = .ok c')

include h

theorem promoted_rel : List.Forall₂ (Yields (Ident.mapNames f)) (c.promoted r) (c'.promoted r') :=
  List.rel_filterMap (fun _ _ hp => Param.promoted?_rel hr hp) (Ctor.mapNames_eq_ok_iff.1 h).1

theorem mapNames_promote : (c.promote r).mapNames f = .ok (c'.promote r') := by
  obtain ⟨hp, hs, ht⟩ := Ctor.mapNames_eq_ok_iff.1 h
  refine Ctor.mapNames_eq_ok_iff.2 ⟨?_, ?_, ht⟩
  · refine List.rel_map ?_ hp
    exact fun _ _ hp => Param.mapNames_promote hr hp
  · exact insertAssignments_rel hs (List.rel_map (fun _ _ => Ident.mapNames_assignment) (promoted_rel hr h))

end Ctor

/-! ## One class -/

namespace ClassDecl

variable {d : ClassDecl ν} {d' : ClassDecl μ} (h : d.mapNames f = .ok d')

include h

theorem isNone_marker?_eq : (d.marker? r.markers).isNone = (d'.marker? r'.markers).isNone := by
  have ha := Decorator.any_isMarker_eq hr.onClass (ClassDecl.mapNames_eq_ok_iff.1 h).1
  rw [isNone_marker?_eq_not_any, isNone_marker?_eq_not_any, ha]

theorem mapNames_stripMarkers : (d.stripMarkers r.markers).mapNames f = .ok (d'.stripMarkers r'.markers) := by
  obtain ⟨hd, hp⟩ := ClassDecl.mapNames_eq_ok_iff.1 h
  exact ClassDecl.mapNames_eq_ok_iff.2 ⟨Decorator.strip_rel hr.onClass hd, hp⟩

theorem mapNames_promoted {c : Ctor ν} {c' : Ctor μ} (hc : c.mapNames f = .ok c') :
    (d.promoted r c).mapNames f = .ok (d'.promoted r' c') := by
  obtain ⟨-, hn, -, -, hs⟩ := ClassDecl.mapNames_eq_ok_iff.1 h
  obtain ⟨hp, hb, -⟩ := Ctor.mapNames_eq_ok_iff.1 hc
  have hn := (Ident.mapNames_eq_ok_iff.1 hn).1
  refine Promoted.mapNames_eq_ok_iff.2 ⟨hn, hs, ?_, superCall?_eq hb, ?_⟩
  · refine List.rel_map ?_ (Ctor.promoted_rel hr hc)
    exact fun _ _ hid => (Ident.mapNames_eq_ok_iff.1 hid).1
  · refine List.rel_filterMap (fun p p' hp => ?_) hp
    rw [Param.skipped?_eq hr hp, (Param.mapNames_eq_ok_iff.1 hp).2.2.2]
    cases p'.skipped? r' with
    | none => exact .none
    | some shape => exact .some (Skipped.mapNames_eq_ok_iff.2 ⟨hn, rfl, rfl⟩)

/-- **Promoting a class goes by names alone**: under other names, the class is left and reported on the same. -/
theorem promote_named :
    (d.promote r).1.mapNames f = .ok (d'.promote r').1 ∧ (d.promote r).2.Named f (d'.promote r').2 := by
  have hm := isNone_marker?_eq hr h
  have hd := mapNames_stripMarkers hr h
  cases hn : (d.marker? r.markers).isNone with
  | true =>
    rw [promote_of_unmarked hn, promote_of_unmarked (hm ▸ hn)]
    exact ⟨h, .none, .none, .nil⟩
  | false =>
    have hn' := hm ▸ hn
    obtain ⟨-, hname, -, -, hspan⟩ := ClassDecl.mapNames_eq_ok_iff.1 h
    have hname := (Ident.mapNames_eq_ok_iff.1 hname).1
    have hc := ctor?_rel h
    generalize hx : d.ctor? = x at hc
    generalize hx' : d'.ctor? = x' at hc
    cases hc with
    | none =>
      rw [promote_of_noCtor hn hx, promote_of_noCtor hn' hx', hr.settings]
      refine ⟨hd, ?_⟩
      cases r'.settings.missingConstructor with
      | ignore =>
        have ho : (Outcome.noConstructor d.name.name d.span).mapNames f = .ok (.noConstructor d'.name.name d'.span) :=
          bind_eq_ok_iff.2 ⟨_, hname, hspan ▸ rfl⟩
        exact ⟨.some ho, .none, .cons (bind_eq_ok_iff.2 ⟨_, hname, rfl⟩) .nil⟩
      | error => exact ⟨.none, .some (NoConstructorError.mapNames_eq_ok_iff.2 ⟨hname, hspan⟩), .nil⟩
    | @some c c' hc =>
      have hp := mapNames_promoted hr h hc
      obtain ⟨-, -, hprop, hsuper, -⟩ := Promoted.mapNames_eq_ok_iff.1 hp
      rw [promote_of_ctor hn hx, promote_of_ctor hn' hx', hprop.length_eq, hsuper]
      refine ⟨mapNames_mapCtor (fun _ _ => Ctor.mapNames_promote hr) hd, ?_, .none, ?_⟩
      · exact .some (bind_eq_ok_iff.2 ⟨_, hp, rfl⟩)
      · refine List.rel_append ?_ (.cons (bind_eq_ok_iff.2 ⟨_, hname, rfl⟩) .nil)
        refine List.rel_filterMap ?_ (Ctor.mapNames_eq_ok_iff.1 hc).1
        exact fun _ _ hp => Param.event?_rel hr hp hname

end ClassDecl

/-! ## All classes -/

theorem ClassDecl.mapNames_promoteAll (d : ClassDecl ν) : ∀ d' : ClassDecl μ, d.mapNames f = .ok d' →
    (d.promoteAll r).mapNames f = .ok (d'.promoteAll r') := by
  induction d using ClassDecl.nested_induction with
  | step d ih =>
    intro d' h
    rw [promoteAll_eq, promoteAll_eq]
    rw [← classes_promote r d] at ih
    exact ((d.promote r).1.named f).walk_replace (promote_named hr h).1 ih

/-- **A run goes by names alone**: under other names, it leaves the same module and comes to the same report. -/
theorem Module.promote_named {p : Module ν} {q : Module μ} (h : p.mapNames f = .ok q) (file : String) :
    (p.promote r file).1.mapNames f = .ok (q.promote r' file).1 ∧
    (p.promote r file).2.mapNames f = .ok (q.promote r' file).2 := by
  have hc := Module.classDecls_rel h
  have hp : ∀ d d', Yields (ClassDecl.mapNames f) d d' → (d.report r).Named f (d'.report r') :=
    fun d d' hd => (ClassDecl.promote_named hr hd).2
  have ho : List.Forall₂ (Yields (Outcome.mapNames f)) (p.promote r file).2.outcomes
      (q.promote r' file).2.outcomes := by
    rw [Module.outcomes_promote, Module.outcomes_promote]
    exact List.rel_filterMap (fun d d' hd => (hp d d' hd).outcome?) hc
  have he : List.Forall₂ (Yields (NoConstructorError.mapNames f)) (p.promote r file).2.errors
      (q.promote r' file).2.errors := by
    rw [Module.errors_promote, Module.errors_promote]
    exact List.rel_filterMap (fun d d' hd => (hp d d' hd).error?) hc
  constructor
  · rw [Module.fst_promote, Module.fst_promote, Module.promoteAll_eq, Module.promoteAll_eq]
    exact (p.named f).walk_replace h fun c _ => c.mapNames_promoteAll hr
  · refine Report.mapNames_eq_ok_iff.2 ⟨rfl, ho, he, ?_⟩
    rw [Module.events_promote, Module.events_promote, Report.classCount_eq ho, Report.propertyCount_eq ho,
      he.length_eq, hr.settings]
    refine List.rel_append (List.rel_append ?_ ?_) ?_
    · refine .cons rfl ?_
      split
      · exact .cons rfl .nil
      · exact .nil
    · exact List.rel_flatMap hc fun d d' hd => (hp d d' hd).events
    · exact .cons rfl (.cons rfl .nil)

end Promotion

/-! ## Symbols and text -/

/-- The rules for trees with text for names. -/
def Settings.textRules (s : Settings) : Rules String := ⟨s, ⟨some classMarkerName, some paramMarkerName⟩⟩

theorem NameTable.find?_eq_some_iff {t : NameTable} {y : Symbol} {s' : String} (h : t.resolve y = .ok s')
    (s : String) : t.find? s = some y ↔ some s = some s' := by
  rw [← t.resolve_eq_ok_iff, h, Except.ok.injEq, Option.some.injEq]
  exact eq_comm

/-- A symbol is a marker if and only if its text is, also where the table has no symbol for the marker. -/
theorem Settings.rules_named (s : Settings) (t : NameTable) : (s.rules t).Named t.resolve s.textRules :=
  ⟨rfl, fun h => t.find?_eq_some_iff h classMarkerName, fun h => t.find?_eq_some_iff h paramMarkerName⟩

/-! ### A class in the field of another

A module with one name throughout and, in two tables, two symbols for that name.  The first table does not know the
parameter marker, which the module does not mention; the second one knows it. -/

/-- A marked class without a constructor.  The function in its field holds a marked class with one, which takes a name
and a rest parameter, both under the decorators `es`. -/
def Module.ofName (y : ν) (es : List (Decorator ν)) : Module ν :=
  let id : Ident ν := ⟨y, default⟩
  let params : List (Param ν) := [⟨es, .ident id, none, default⟩, ⟨es, .rest (.ident id) default, none, default⟩]
  let inner : ClassDecl ν := ⟨[⟨.ident id, default⟩], id, none, [.ctor ⟨params, ⟨[], default⟩, default⟩], default⟩
  let value : Expr ν := .arrow ⟨[], .block ⟨[.classDef inner], default⟩, false, default⟩
  ⟨[.classDef ⟨[⟨.ident id, default⟩], id, none, [.field [] id (some value) false default], default⟩], default⟩

/-- **A run does not depend on how the names were numbered**: two modules that resolve, each in its own table, to the
same text are left with the same text, and the reports on them have the same text too. -/
theorem Module.promote_of_same_text {t₁ t₂ : NameTable} {p₁ p₂ : Module Symbol} {q : Module String}
    (h₁ : p₁.mapNames t₁.resolve = .ok q) (h₂ : p₂.mapNames t₂.resolve = .ok q) (s : Settings) (file : String) :
    ∃ (q' : Module String) (R : Report String),
      (p₁.promote (s.rules t₁) file).1.mapNames t₁.resolve = .ok q' ∧
      (p₂.promote (s.rules t₂) file).1.mapNames t₂.resolve = .ok q' ∧
      (p₁.promote (s.rules t₁) file).2.mapNames t₁.resolve = .ok R ∧
      (p₂.promote (s.rules t₂) file).2.mapNames t₂.resolve = .ok R := by
  obtain ⟨hp₁, hr₁⟩ := Module.promote_named (s.rules_named t₁) h₁ file
  obtain ⟨hp₂, hr₂⟩ := Module.promote_named (s.rules_named t₂) h₂ file
  exact ⟨_, _, hp₁, hp₂, hr₁, hr₂⟩

/-- That only one of two tables knows a marker does not show. -/
theorem Module.promote_of_same_text_ofName :
    let p₁ := Module.ofName (default : Symbol) []
    let p₂ := Module.ofName (⟨2, by decide⟩ : Symbol) []
    let r₁ := Settings.rules ⟨.allParameters, .error⟩ (.ofName classMarkerName)
    let r₂ := Settings.rules ⟨.allParameters, .error⟩ .ofMarkerNames
    p₁.mapNames (NameTable.ofName classMarkerName).resolve = .ok (Module.ofName classMarkerName []) ∧
    p₂.mapNames NameTable.ofMarkerNames.resolve = .ok (Module.ofName classMarkerName []) ∧
    ∃ (q : Module String) (R : Report String),
      (p₁.promote r₁ "").1.mapNames (NameTable.ofName classMarkerName).resolve = .ok q ∧
      (p₂.promote r₂ "").1.mapNames NameTable.ofMarkerNames.resolve = .ok q ∧
      (p₁.promote r₁ "").2.mapNames (NameTable.ofName classMarkerName).resolve = .ok R ∧
      (p₂.promote r₂ "").2.mapNames NameTable.ofMarkerNames.resolve = .ok R :=
  ⟨rfl, rfl, Module.promote_of_same_text rfl rfl ⟨.allParameters, .error⟩ ""⟩

end Promotion
