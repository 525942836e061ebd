import Mathlib.Data.List.Forall2
import Mathlib.Data.Set.Functor
import Mathlib.Tactic.Choose
import Promotion.Proofs.Run
/-!
# Marking all parameters

Of a marked class, `allParameters` promotes every parameter that binds a single name, and `perParameter` those of them
that carry a marker.  `Module.Marking` puts a marker on every parameter that only the first policy promotes.  Where the
marker stands among the decorators and which spans it has is left open, for every parameter anew, so a marking is a
relation: a bottom-up map in which each class is replaced by any one of its markings.

A module under the first policy and a marking of it under the second come to the same.  For one class this is
`ClassDecl.Marking.promote_eq`; from there it goes along the nesting of classes, since promoting a class commutes with
replacing the classes inside it.
-/
namespace Promotion

variable {ν : Type}

/-! ## Maps with several images -/

section Lists

variable {α β : Type}

theorem mem_run_bind {x : SetM α} {act : α → SetM β} {b : β} :
    b ∈ (x >>= act).run ↔ ∃ a ∈ x.run, b ∈ (act a).run := by
  have h : b ∈ (x >>= act).run ↔ b ∈ ⋃ a ∈ x.run, (act a).run := Iff.rfl
  simpa using h

/-- What a list can be mapped to when each of its elements has several images. -/
theorem mem_run_mapM {act : α → SetM β} :
    ∀ {as : List α} {bs : List β}, bs ∈ (as.mapM act).run ↔ List.Forall₂ (fun a b => b ∈ (act a).run) as bs
  | [], bs => by
    rw [List.mapM_nil, List.forall₂_nil_left_iff]
    rfl
  | a :: as, bs => by
    rw [List.mapM_cons, List.forall₂_cons_left_iff, mem_run_bind]
    constructor
    · rintro ⟨b, hb, h⟩
      obtain ⟨cs, hcs, rfl⟩ := mem_run_bind.1 h
      exact ⟨b, cs, hb, mem_run_mapM.1 hcs, rfl⟩
    · rintro ⟨b, cs, hb, hcs, rfl⟩
      exact ⟨b, hb, mem_run_bind.2 ⟨cs, mem_run_mapM.2 hcs, rfl⟩⟩

end Lists

theorem Layout.eq_of_mem_mapClasses {α β : Type} [Part ν α] {x x' : α} (hx : Layout x)
    {f : ClassDecl ν → SetM (ClassDecl ν)} {g g' : ClassDecl ν → ClassDecl ν} {w w' : ClassDecl ν → β}
    (h : ∀ c : ClassDecl ν, c.classDecls.Sublist (Part.classes x) → ∀ c' ∈ (c.mapClasses f).run,
      g c = g' c' ∧ c.classDecls.map w = c'.classDecls.map w')
    (hx' : x' ∈ (Part.mapClasses f x).run) :
    Part.replace g x = Part.replace g' x' ∧ (Part.classes x).map w = (Part.classes x').map w' := by
  obtain ⟨cs, fill, hf, rfl⟩ := hx
  rw [hf.mapClasses f cs rfl] at hx'
  obtain ⟨ds, hds, rfl⟩ : ∃ ds ∈ (cs.mapM (ClassDecl.mapClasses f)).run, fill ds = x' := hx'
  have hl : ds.length = cs.length := (mem_run_mapM.1 hds).length_eq.symm
  have hr : List.Forall₂ (fun c c' => g c = g' c' ∧ c.classDecls.map w = c'.classDecls.map w') cs ds := by
    have hs := (List.forall₂_and_left cs ds).2 ⟨fun c => hf.classDecls_sublist rfl, mem_run_mapM.1 hds⟩
    exact hs.imp fun c c' hc => h c hc.1 c' hc.2
  rw [hf.replace_fill rfl, hf.replace_fill hl, hf.classes cs rfl, hf.classes ds hl, List.map_flatMap, List.map_flatMap,
    List.flatMap_def, List.flatMap_def]
  exact ⟨congrArg fill (map_eq_of_forall₂ hr fun _ _ hc => hc.1),
    congrArg List.flatten (map_eq_of_forall₂ hr fun _ _ hc => hc.2)⟩

theorem Layout.exists_mem_mapClasses {α : Type} [Part ν α] {x : α} (hx : Layout x)
    {f : ClassDecl ν → SetM (ClassDecl ν)}
    (h : ∀ c : ClassDecl ν, c.classDecls.Sublist (Part.classes x) → ∃ c', c' ∈ (c.mapClasses f).run) :
    ∃ x', x' ∈ (Part.mapClasses f x).run := by
  obtain ⟨cs, fill, hf, rfl⟩ := hx
  choose! g hg using h
  refine ⟨fill (cs.map g), ?_⟩
  rw [hf.mapClasses f cs rfl]
  refine ⟨cs.map g, mem_run_mapM.2 ?_, rfl⟩
  exact List.forall₂_map_right_iff.2 (List.forall₂_same.2 fun c hc => hg c (hf.classDecls_sublist rfl hc))

/-! ## The first constructor of a class -/

theorem Member.mapCtor_mapCtor {f g k : Ctor ν → Ctor ν} :
    ∀ {xs : List (Member ν)}, (∀ c, Member.ctor? xs = some c → g (f c) = k c) →
      Member.mapCtor g (Member.mapCtor f xs) = Member.mapCtor k xs
  | [], _ => rfl
  | .ctor c :: xs, h => congrArg (fun c => Member.ctor c :: xs) (h c rfl)
  | .field .. :: _, h => congrArg (_ :: ·) (mapCtor_mapCtor h)
  | .method .. :: _, h => congrArg (_ :: ·) (mapCtor_mapCtor h)

/-! ## Markings -/

variable [DecidableEq ν]

/-- A parameter that binds a single name and has no marker gets one among its decorators, any other stays as it is. -/
inductive Param.Marking (ms : Markers ν) : Param ν → Param ν → Prop
  | keep {p : Param ν} (h : p.ident? = none ∨ p.isMarked ms = true) : Marking ms p p
  | add {pre post : List (Decorator ν)} {e : Decorator ν} {id : Ident ν} {value : Option (Expr ν)} {span : Span}
      (hp : (Param.mk (pre ++ post) (.ident id) value span).isMarked ms = false)
      (he : e.isMarker ms.onParam = true) :
      Marking ms ⟨pre ++ post, .ident id, value, span⟩ ⟨pre ++ e :: post, .ident id, value, span⟩

def Ctor.withParams (c : Ctor ν) (ps : List (Param ν)) : Ctor ν := { c with params := ps }

/-- The parameters of the first constructor of a marked class get their markers; any other class stays as it is. -/
inductive ClassDecl.Marking (ms : Markers ν) : ClassDecl ν → ClassDecl ν → Prop
  | unmarked {d : ClassDecl ν} (h : d.marker? ms = none) : Marking ms d d
  | noCtor {d : ClassDecl ν} (h : d.ctor? = none) : Marking ms d d
  | ctor {d : ClassDecl ν} {c : Ctor ν} {ps : List (Param ν)} (hd : (d.marker? ms).isSome = true)
      (hc : d.ctor? = some c) (hp : List.Forall₂ (Param.Marking ms) c.params ps) :
      Marking ms d (d.mapCtor (·.withParams ps))

def ClassDecl.markings (ms : Markers ν) (d : ClassDecl ν) : SetM (ClassDecl ν) := {d' | d.Marking ms d'}

/-- The module with the classes at all depths replaced by markings of them. -/
def Module.Marking (ms : Markers ν) (p p' : Module ν) : Prop := p' ∈ (p.mapClasses (ClassDecl.markings ms)).run

/-! ### A class in the constructor of another

A module over the table of the two markers, whose two classes are marked and take one parameter each. -/

def classMarker : Ident Symbol := ⟨⟨2, by decide⟩, default⟩

def paramMarker : Ident Symbol := ⟨default, default⟩

/-- A marked class; its parameter carries the class marker, which says nothing there, and behind it `es`. -/
def ClassDecl.ofDecorators (es : List (Decorator Symbol)) (body : List (Stmt Symbol)) : ClassDecl Symbol where
  decorators := [⟨.ident classMarker, default⟩]
  name := classMarker
  base := none
  members := [.ctor
    ⟨[⟨[⟨.ident classMarker, default⟩] ++ es, .ident paramMarker, none, default⟩], ⟨body, default⟩, default⟩]
  span := default

def Module.ofDecorators (es : List (Decorator Symbol)) : Module Symbol :=
  ⟨[.classDef (.ofDecorators es [.classDef (.ofDecorators es [])])], default⟩

theorem ClassDecl.marking_ofDecorators (body : List (Stmt Symbol)) :
    (ClassDecl.ofDecorators [] body).Marking NameTable.ofMarkerNames.markers
      (.ofDecorators [⟨.ident paramMarker, default⟩] body) := by
  rw [NameTable.markers_ofMarkerNames]
  have hp : Param.Marking ⟨some classMarker.name, some paramMarker.name⟩
      ⟨[⟨.ident classMarker, default⟩] ++ [], .ident paramMarker, none, default⟩
      ⟨[⟨.ident classMarker, default⟩] ++ [⟨.ident paramMarker, default⟩], .ident paramMarker, none, default⟩ :=
    .add rfl rfl
  exact .ctor rfl rfl (.cons hp .nil)

theorem Module.marking_ofDecorators :
    (Module.ofDecorators []).Marking NameTable.ofMarkerNames.markers (.ofDecorators [⟨.ident paramMarker, default⟩]) := by
  have h : ∀ f : ClassDecl Symbol → SetM (ClassDecl Symbol), (Module.ofDecorators []).mapClasses f = do
      let d ← f (.ofDecorators [] [])
      let d' ← f (.ofDecorators [] [.classDef d])
      return ⟨[.classDef d'], default⟩ := fun f => by
    simp [Module.ofDecorators, ClassDecl.ofDecorators, Module.mapClasses, Stmt.mapClassesAll, Stmt.mapClasses,
      ClassDecl.mapInside, Decorator.mapClassesAll, Decorator.mapClasses, Expr.mapClasses, Expr.mapClassesOpt,
      Member.mapClassesAll, Member.mapClasses, Ctor.mapClasses, Block.mapClasses, Param.mapClassesAll, Param.mapClasses,
      Pattern.mapClasses]
  unfold Module.Marking
  rw [h]
  refine mem_run_bind.2 ⟨_, ClassDecl.marking_ofDecorators [], mem_run_bind.2 ⟨_, ?_, rfl⟩⟩
  exact ClassDecl.marking_ofDecorators _

/-! ## One class -/

section OneClass

variable {ms : Markers ν} (mc : MissingConstructor)

namespace Param.Marking

variable {p p' : Param ν} (h : Param.Marking ms p p')

include h

theorem span_eq : p.span = p'.span := by
  cases h <;> rfl

theorem promoted?_eq : p.promoted? ⟨⟨.allParameters, mc⟩, ms⟩ = p'.promoted? ⟨⟨.perParameter, mc⟩, ms⟩ := by
  unfold Param.promoted?
  cases h with
  | keep h =>
    obtain h | h := h
    · simp [h]
    · simp [h]
  | add hp he => simp [Param.isMarked, he, Param.ident?]

theorem skipped?_eq : p.skipped? ⟨⟨.allParameters, mc⟩, ms⟩ = p'.skipped? ⟨⟨.perParameter, mc⟩, ms⟩ := by
  unfold Param.skipped?
  cases h with
  | keep => rfl
  | add hp he => simp [hp, Pattern.shape?]

theorem event?_eq (n : ν) :
    p.event? ⟨⟨.allParameters, mc⟩, ms⟩ n = p'.event? ⟨⟨.perParameter, mc⟩, ms⟩ n := by
  unfold Param.event?
  rw [h.promoted?_eq, h.skipped?_eq, h.span_eq]

/-- The marker that was added is taken away again. -/
theorem promote_eq : p.promote ⟨⟨.allParameters, mc⟩, ms⟩ = p'.promote ⟨⟨.perParameter, mc⟩, ms⟩ := by
  have hp := h.promoted?_eq mc
  unfold Param.promote
  cases h with
  | keep => rw [hp]
  | @add pre post e id value span hm he =>
    have hs : Decorator.strip ms.onParam (pre ++ e :: post) = Decorator.strip ms.onParam (pre ++ post) := by
      simp [Decorator.strip, he]
    have hi : (Param.mk (pre ++ post) (.ident id) value span).promoted? ⟨⟨.allParameters, mc⟩, ms⟩ = some id := by
      simp [Param.promoted?, Param.ident?]
    rw [← hp, hi]
    exact congrArg (fun ds => Param.mk ds (.ident id) value span) hs.symm

end Param.Marking

section Ctor

variable {c : Ctor ν} {ps : List (Param ν)} (h : List.Forall₂ (Param.Marking ms) c.params ps)

include h

theorem Ctor.promoted_withParams :
    (c.withParams ps).promoted ⟨⟨.perParameter, mc⟩, ms⟩ = c.promoted ⟨⟨.allParameters, mc⟩, ms⟩ :=
  (filterMap_eq_of_forall₂ h fun _ _ hp => hp.promoted?_eq mc).symm

theorem Ctor.promote_withParams :
    (c.withParams ps).promote ⟨⟨.perParameter, mc⟩, ms⟩ = c.promote ⟨⟨.allParameters, mc⟩, ms⟩ := by
  have hp : c.params.map (·.promote ⟨⟨.allParameters, mc⟩, ms⟩) = ps.map (·.promote ⟨⟨.perParameter, mc⟩, ms⟩) :=
    map_eq_of_forall₂ h fun _ _ hp => hp.promote_eq mc
  unfold Ctor.promote
  rw [Ctor.promoted_withParams mc h, hp]
  rfl

theorem ClassDecl.promoted_withParams (d : ClassDecl ν) :
    (d.mapCtor (·.withParams ps)).promoted ⟨⟨.perParameter, mc⟩, ms⟩ (c.withParams ps) =
      d.promoted ⟨⟨.allParameters, mc⟩, ms⟩ c := by
  have hs : c.params.filterMap (fun p => (p.skipped? ⟨⟨.allParameters, mc⟩, ms⟩).map fun shape =>
        (⟨d.name.name, shape, p.span⟩ : Skipped ν)) =
      ps.filterMap fun p => (p.skipped? ⟨⟨.perParameter, mc⟩, ms⟩).map fun shape => ⟨d.name.name, shape, p.span⟩ :=
    filterMap_eq_of_forall₂ h fun _ _ hp => by rw [hp.skipped?_eq mc, hp.span_eq]
  unfold ClassDecl.promoted
  rw [Ctor.promoted_withParams mc h, hs]
  rfl

theorem ClassDecl.mapCtor_promote_withParams {d : ClassDecl ν} (hc : d.ctor? = some c) :
    (d.mapCtor (·.withParams ps)).mapCtor (·.promote ⟨⟨.perParameter, mc⟩, ms⟩) =
      d.mapCtor (·.promote ⟨⟨.allParameters, mc⟩, ms⟩) := by
  refine congrArg (fun xs => { d with members := xs }) (Member.mapCtor_mapCtor fun c' hc' => ?_)
  obtain rfl : c = c' := Option.some.inj (hc.symm.trans hc')
  exact Ctor.promote_withParams mc h

end Ctor

/-- **One class**: promoting the parameters that bind a single name is promoting the marked ones of a marking. -/
theorem ClassDecl.Marking.promote_eq {d d' : ClassDecl ν} (h : d.Marking ms d') :
    d.promote ⟨⟨.allParameters, mc⟩, ms⟩ = d'.promote ⟨⟨.perParameter, mc⟩, ms⟩ := by
  cases h with
  | unmarked h =>
    have hn : (d.marker? ms).isNone = true := by rw [h]; rfl
    rw [ClassDecl.promote_of_unmarked hn, ClassDecl.promote_of_unmarked hn]
  | noCtor h =>
    unfold ClassDecl.promote
    rw [h]
    cases mc <;> rfl
  | @ctor c ps hd hc hp =>
    have hn : (d.marker? ms).isNone = false := by rw [← Option.not_isSome, hd]; rfl
    have hc' : (d.mapCtor (·.withParams ps)).ctor? = some (c.withParams ps) :=
      (Member.ctor?_mapCtor _ _).trans (congrArg (Option.map _) hc)
    have hm := ClassDecl.mapCtor_promote_withParams mc hp (d := d.stripMarkers ms) hc
    have he := filterMap_eq_of_forall₂ hp fun _ _ h => h.event?_eq mc d.name.name
    have hl := ClassDecl.promote_of_ctor (r := ⟨⟨.allParameters, mc⟩, ms⟩) hn hc
    have hr := ClassDecl.promote_of_ctor (r := ⟨⟨.perParameter, mc⟩, ms⟩) (d := d.mapCtor (·.withParams ps)) hn hc'
    rw [hl, hr, ClassDecl.promoted_withParams mc hp, ← hm, he]
    rfl

end OneClass

/-! ## All classes -/

section Nested

variable {ms : Markers ν} (mc : MissingConstructor)

/-- **A class and all the classes inside it** are left the same, and the reports on them are the same. -/
theorem ClassDecl.promoteAll_of_mem_mapClasses (d : ClassDecl ν) :
    ∀ d' ∈ (d.mapClasses (ClassDecl.markings ms)).run,
      d.promoteAll ⟨⟨.allParameters, mc⟩, ms⟩ = d'.promoteAll ⟨⟨.perParameter, mc⟩, ms⟩ ∧
      d.classDecls.map (ClassDecl.report ⟨⟨.allParameters, mc⟩, ms⟩) =
        d'.classDecls.map (ClassDecl.report ⟨⟨.perParameter, mc⟩, ms⟩) := by
  generalize hr : (⟨⟨.allParameters, mc⟩, ms⟩ : Rules ν) = r
  generalize hr' : (⟨⟨.perParameter, mc⟩, ms⟩ : Rules ν) = r'
  induction d using ClassDecl.nested_induction with
  | step d ih =>
    intro d' hd'
    -- `d₀` is `d` with markings of the classes inside it, and `d'` is a marking of `d₀`
    obtain ⟨d₀, h₀, hd'⟩ := mem_run_bind.1 hd'
    obtain ⟨hi, hc⟩ := d.layout.eq_of_mem_mapClasses ih h₀
    have hp : d₀.promote r = d'.promote r' := by
      rw [← hr, ← hr']
      exact ClassDecl.Marking.promote_eq mc hd'
    have hk : Part.classes d' = Part.classes d₀ := by
      rw [← ClassDecl.classes_promote r' d', ← hp, ClassDecl.classes_promote]
    have hrep : d.report r = d'.report r' := by
      calc d.report r
        _ = ((Part.replace (ClassDecl.promoteAll r) d).promote r).2 := (ClassDecl.report_replace _ r d).symm
        _ = ((Part.replace (ClassDecl.promoteAll r') d₀).promote r).2 := by rw [hi]
        _ = (d₀.promote r).2 := ClassDecl.report_replace _ r d₀
        _ = d'.report r' := congrArg Prod.snd hp
    refine ⟨?_, ?_⟩
    · calc d.promoteAll r
        _ = ((Part.replace (ClassDecl.promoteAll r) d).promote r).1 := by
          rw [ClassDecl.promote_replace, ← ClassDecl.promoteAll_eq]
        _ = ((Part.replace (ClassDecl.promoteAll r') d₀).promote r).1 := by rw [hi]
        _ = Part.replace (ClassDecl.promoteAll r') (d'.promote r').1 := by rw [ClassDecl.promote_replace, hp]
        _ = d'.promoteAll r' := (ClassDecl.promoteAll_eq r' d').symm
    · have hcs : (Part.classes d).map (ClassDecl.report r) = (Part.classes d').map (ClassDecl.report r') := by
        rw [hk, hc]
      exact List.cons_eq_cons.2 ⟨hrep, hcs⟩

theorem Param.exists_marking {n : ν} (hn : ms.onParam = some n) (p : Param ν) : ∃ p', Param.Marking ms p p' := by
  obtain ⟨ds, q, v, s⟩ := p
  cases q with
  | ident id =>
    cases hm : (Param.mk ds (.ident id) v s).isMarked ms with
    | true => exact ⟨_, .keep (.inr hm)⟩
    | false =>
      have he : (Decorator.mk (.ident ⟨n, s⟩) s).isMarker ms.onParam = true := by
        simp [Decorator.isMarker, Decorator.bareName, hn]
      have ha : Param.Marking ms ⟨[] ++ ds, .ident id, v, s⟩ ⟨[] ++ ⟨.ident ⟨n, s⟩, s⟩ :: ds, .ident id, v, s⟩ :=
        .add hm he
      exact ⟨_, ha⟩
  | _ => exact ⟨_, .keep (.inl rfl)⟩

theorem ClassDecl.exists_marking {n : ν} (hn : ms.onParam = some n) (d : ClassDecl ν) : ∃ d', d.Marking ms d' := by
  have hp : ∀ p : Param ν, ∃ p', Param.Marking ms p p' := Param.exists_marking hn
  choose g hg using hp
  cases hd : d.marker? ms with
  | none => exact ⟨d, .unmarked hd⟩
  | some e =>
    cases hc : d.ctor? with
    | none => exact ⟨d, .noCtor hc⟩
    | some c =>
      have hp : List.Forall₂ (Param.Marking ms) c.params (c.params.map g) :=
        List.forall₂_map_right_iff.2 (List.forall₂_same.2 fun p _ => hg p)
      exact ⟨_, .ctor (by rw [hd]; rfl) hc hp⟩

theorem ClassDecl.exists_mem_mapClasses_markings {n : ν} (hn : ms.onParam = some n) (d : ClassDecl ν) :
    ∃ d', d' ∈ (d.mapClasses (ClassDecl.markings ms)).run := by
  induction d using ClassDecl.nested_induction with
  | step d ih =>
    obtain ⟨d₀, h₀⟩ := d.layout.exists_mem_mapClasses ih
    obtain ⟨d', hd'⟩ := d₀.exists_marking hn
    exact ⟨d', mem_run_bind.2 ⟨d₀, h₀, hd'⟩⟩

end Nested

/-- **The two policies agree after marking**: where the parameter marker has a symbol, every module has a marking, and
under `perParameter` each of them comes to the same module, outcomes and errors as the module itself under
`allParameters`. -/
theorem Module.promote_eq_promote_marking (t : NameTable) {y : Symbol} (hy : t.find? paramMarkerName = some y)
    (mc : MissingConstructor) (file : String) (p : Module Symbol) :
    (∃ p', p.Marking t.markers p') ∧ ∀ p', p.Marking t.markers p' →
      (p.promote (Settings.rules ⟨.allParameters, mc⟩ t) file).1 =
        (p'.promote (Settings.rules ⟨.perParameter, mc⟩ t) file).1 ∧
      (p.promote (Settings.rules ⟨.allParameters, mc⟩ t) file).2.outcomes =
        (p'.promote (Settings.rules ⟨.perParameter, mc⟩ t) file).2.outcomes ∧
      (p.promote (Settings.rules ⟨.allParameters, mc⟩ t) file).2.errors =
        (p'.promote (Settings.rules ⟨.perParameter, mc⟩ t) file).2.errors := by
  refine ⟨p.layout.exists_mem_mapClasses fun c _ => c.exists_mem_mapClasses_markings hy, fun p' hp' => ?_⟩
  obtain ⟨hm, hr⟩ := p.layout.eq_of_mem_mapClasses (fun c _ => c.promoteAll_of_mem_mapClasses mc) hp'
  have hf : ∀ {β : Type} (k : ClassReport Symbol → Option β),
      p.classDecls.filterMap (fun d => k (d.report (Settings.rules ⟨.allParameters, mc⟩ t))) =
        p'.classDecls.filterMap (fun d => k (d.report (Settings.rules ⟨.perParameter, mc⟩ t))) := fun k => by
    have := congrArg (List.filterMap k) hr
    rw [List.filterMap_map, List.filterMap_map] at this
    exact this
  rw [Module.fst_promote, Module.fst_promote, Module.promoteAll_eq, Module.promoteAll_eq, Module.outcomes_promote,
    Module.outcomes_promote, Module.errors_promote, Module.errors_promote]
  exact ⟨hm, hf ClassReport.outcome?, hf ClassReport.error?⟩

/-- Both the class and the class in its constructor get their marker. -/
theorem Module.promote_eq_promote_marking_ofDecorators :
    NameTable.ofMarkerNames.find? paramMarkerName = some paramMarker.name ∧
    (Module.ofDecorators []).Marking NameTable.ofMarkerNames.markers (.ofDecorators [⟨.ident paramMarker, default⟩]) ∧
    let r := (Module.ofDecorators []).promote (Settings.rules ⟨.allParameters, .error⟩ .ofMarkerNames) ""
    let r' := (Module.ofDecorators [⟨.ident paramMarker, default⟩]).promote
      (Settings.rules ⟨.perParameter, .error⟩ .ofMarkerNames) ""
    r.1 = r'.1 ∧ r.2.outcomes = r'.2.outcomes ∧ r.2.errors = r'.2.errors := by
  have hy : NameTable.ofMarkerNames.find? paramMarkerName = some paramMarker.name :=
    congrArg Markers.onParam NameTable.markers_ofMarkerNames
  have h := (Module.promote_eq_promote_marking .ofMarkerNames hy .error "" _).2 _ Module.marking_ofDecorators
  exact ⟨hy, Module.marking_ofDecorators, h⟩

end Promotion
