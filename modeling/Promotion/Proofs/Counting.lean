import Promotion.Proofs.Balance
import Promotion.Proofs.Warnings
/-!
# The counters of a report

What a report counts can be counted in the tree as well.  The statements come out of the balance of a run: a marker
holds no statement and an assignment is one (`Module.stmtCount_promote`).  The other counters are sums over the classes,
to which a class without a marker adds nothing (`length_flatMap_filter`).
-/
namespace Promotion

variable {ν : Type}

/-- The number of statements of a module, at any depth. -/
def Module.stmtCount (p : Module ν) : Nat := p.nodes.countP Node.isStmt

/-- Sums over the members of a list to which only those with a mark add anything. -/
theorem length_flatMap_filter {α β γ δ : Type} {f : α → List β} {g : α → List γ} {k : α → List δ} {mark : α → Bool}
    (hm : ∀ x, mark x = true → (f x).length + (g x).length = (k x).length)
    (hn : ∀ x, mark x = false → (f x).length + (g x).length = 0) (xs : List α) :
    (xs.flatMap f).length + (xs.flatMap g).length = ((xs.filter mark).flatMap k).length := by
  induction xs with
  | nil => rfl
  | cons x xs ih =>
    simp only [List.flatMap_cons, List.length_append]
    cases h : mark x with
    | true =>
      have := hm x h
      rw [List.filter_cons_of_pos h, List.flatMap_cons, List.length_append]
      omega
    | false =>
      have := hn x h
      rw [List.filter_cons_of_neg (by rw [h]; decide)]
      omega

section Promotion

variable [DecidableEq ν] (r : Rules ν)

/-! ## Statements -/

theorem Decorator.isStmt_of_isMarker {mk : Option ν} {e : Decorator ν} (h : e.isMarker mk = true) :
    ∀ n ∈ e.nodes, n.isStmt = false := by
  obtain ⟨y, hy, -⟩ := isMarker_iff.1 h
  obtain ⟨x, s⟩ := e
  cases x with
  | ident id => simp [Decorator.nodes, Expr.nodes, Node.isStmt]
  | _ => cases hy

theorem ClassDecl.isMarker_of_mem_taken {d : ClassDecl ν} {e : Decorator ν} (he : e ∈ d.taken r) :
    ∃ mk, e.isMarker mk = true := by
  unfold ClassDecl.taken at he
  split at he
  · cases he
  · rcases List.mem_append.1 he with he | he
    · exact ⟨_, (List.mem_filter.1 he).2⟩
    · cases hc : d.ctor? with
      | none =>
        rw [hc] at he
        cases he
      | some c =>
        rw [hc] at he
        obtain ⟨x, -, hx⟩ := List.mem_flatMap.1 he
        unfold Param.taken at hx
        split at hx
        · exact ⟨_, (List.mem_filter.1 hx).2⟩
        · cases hx

omit [DecidableEq ν] in
theorem countP_isStmt_assignments (ids : List (Ident ν)) :
    (ids.flatMap fun id => id.assignment.nodes).countP Node.isStmt = ids.length := by
  induction ids with
  | nil => rfl
  | cons id ids ih =>
    have h : id.assignment.nodes.countP Node.isStmt = 1 := rfl
    rw [List.flatMap_cons, List.countP_append, h, ih, List.length_cons, Nat.add_comm]

theorem ClassDecl.properties_report (d : ClassDecl ν) :
    (d.report r).outcome?.toList.flatMap Outcome.properties = (d.added r).map (·.name) := by
  unfold ClassDecl.report ClassDecl.added
  cases h : (d.marker? r.markers).isNone with
  | true =>
    rw [promote_of_unmarked h]
    rfl
  | false =>
    cases hc : d.ctor? with
    | some c =>
      rw [promote_of_ctor h hc]
      exact List.append_nil _
    | none =>
      rw [promote_of_noCtor h hc]
      cases r.settings.missingConstructor <;> rfl

namespace Module

variable (file : String) (p : Module ν)

theorem propertyCount_promote :
    (p.promote r file).2.propertyCount = (p.classDecls.flatMap (·.added r)).length := by
  unfold Report.propertyCount
  rw [outcomes_promote, List.filterMap_eq_flatMap_toList, List.flatMap_assoc,
    List.flatMap_congr fun d _ => d.properties_report r, ← List.map_flatMap, List.length_map]

/-- **A run adds one statement for each promoted parameter**, and neither adds nor loses any other. -/
theorem stmtCount_promote :
    (p.promote r file).1.stmtCount = p.stmtCount + (p.promote r file).2.propertyCount := by
  have h : Balanced Node.isStmt _ _ _ _ := p.balanced_promote (fun _ _ h _ _ => h) r file
  have ht : (p.classDecls.flatMap fun d => (d.taken r).flatMap Decorator.nodes).countP Node.isStmt = 0 := by
    refine List.countP_eq_zero.2 fun n hn => ?_
    obtain ⟨d, -, hn⟩ := List.mem_flatMap.1 hn
    obtain ⟨e, he, hn⟩ := List.mem_flatMap.1 hn
    obtain ⟨mk, hm⟩ := d.isMarker_of_mem_taken r he
    rw [Decorator.isStmt_of_isMarker hm n hn]
    decide
  have ha := countP_isStmt_assignments (p.classDecls.flatMap (·.added r))
  rw [List.flatMap_assoc, ← propertyCount_promote r file] at ha
  unfold Balanced at h
  rw [ha, ht] at h
  exact h.symm

end Module

/-! ## Classes and parameters -/

theorem ClassDecl.isPromoted_report (d : ClassDecl ν) :
    ((d.report r).outcome?.map Outcome.isPromoted).getD false =
      (d.ctor?.isSome && !(d.marker? r.markers).isNone) := by
  unfold ClassDecl.report
  cases h : (d.marker? r.markers).isNone with
  | true =>
    rw [promote_of_unmarked h, Bool.not_true, Bool.and_false]
    rfl
  | false =>
    cases hc : d.ctor? with
    | some c =>
      rw [promote_of_ctor h hc]
      rfl
    | none =>
      rw [promote_of_noCtor h hc]
      cases r.settings.missingConstructor <;> rfl

variable {r}

/-- Where markers decide, a parameter is either promoted or skipped if it is marked, and neither if it is not. -/
theorem Param.promoted?_or_skipped? (hs : r.settings.eligibility = .perParameter) (x : Param ν) :
    (x.promoted? r).toList.length + (x.skipped? r).toList.length = if x.isMarked r.markers then 1 else 0 := by
  have hi := x.isNone_shape?
  unfold Param.promoted? Param.skipped?
  rw [hs]
  cases x.isMarked r.markers with
  | false => rfl
  | true => cases h : x.ident? <;> cases h' : x.pattern.shape? <;> simp_all

theorem ClassDecl.length_added_add_length_skipped (hs : r.settings.eligibility = .perParameter) {d : ClassDecl ν}
    (h : (d.marker? r.markers).isNone = false) :
    (d.added r).length + ((d.report r).outcome?.toList.flatMap Outcome.skipped).length =
      (d.ctorParams.filter (·.isMarked r.markers)).length := by
  have ha : d.added r = d.ctorParams.filterMap (·.promoted? r) := by
    unfold ClassDecl.added ClassDecl.ctorParams
    rw [h]
    cases d.ctor? <;> rfl
  rw [ha, ClassDecl.skipped_report h, List.filterMap_eq_flatMap_toList, List.filterMap_eq_flatMap_toList,
    ← List.flatMap_singleton' (d.ctorParams.filter _)]
  refine length_flatMap_filter (fun x hx => ?_) (fun x hx => ?_) d.ctorParams
  all_goals
    have h := x.promoted?_or_skipped? hs
    rw [hx] at h
    rw [Option.toList_map, List.length_map]
    exact h

end Promotion

/-! ## Marks, read in a table -/

/-- Whether the symbol stands for the name `n`. -/
def NameTable.reads (t : NameTable) (n : String) (y : Symbol) : Bool :=
  match t.resolve y with
  | .ok s => s = n
  | .error _ => false

/-- Whether one of the decorators is a plain name that stands for `n`. -/
def Decorator.mentionIn (t : NameTable) (n : String) (es : List (Decorator Symbol)) : Bool :=
  es.any fun e => e.bareName.any (t.reads n)

/-- The classes of a module that carry the class marker, at any depth. -/
def Module.markedClasses (t : NameTable) (p : Module Symbol) : List (ClassDecl Symbol) :=
  p.classDecls.filter (Decorator.mentionIn t classMarkerName ·.decorators)

/-- The parameters of the first constructor of a class that carry the parameter marker. -/
def ClassDecl.markedParams (t : NameTable) (d : ClassDecl Symbol) : List (Param Symbol) :=
  d.ctorParams.filter (Decorator.mentionIn t paramMarkerName ·.decorators)

section Symbols

variable (t : NameTable)

theorem NameTable.reads_iff (n : String) (y : Symbol) : t.reads n y = true ↔ t.find? n = some y := by
  rw [← t.resolve_eq_ok_iff]
  unfold NameTable.reads
  cases t.resolve y <;> simp

theorem Decorator.any_isMarker_find? (n : String) (es : List (Decorator Symbol)) :
    es.any (·.isMarker (t.find? n)) = mentionIn t n es := by
  refine congrArg (List.any es) (funext fun e => Bool.eq_iff_iff.2 ?_)
  rw [isMarker_iff, Option.any_eq_true]
  exact exists_congr fun y => and_congr_right fun _ => (t.reads_iff n y).symm

theorem ClassDecl.not_isNone_marker? (s : Settings) (d : ClassDecl Symbol) :
    (!(d.marker? (s.rules t).markers).isNone) = Decorator.mentionIn t classMarkerName d.decorators := by
  rw [ClassDecl.isNone_marker?_eq_not_any, Bool.not_not]
  exact Decorator.any_isMarker_find? t classMarkerName d.decorators

theorem ClassDecl.filter_isMarked (s : Settings) (d : ClassDecl Symbol) :
    d.ctorParams.filter (·.isMarked (s.rules t).markers) = d.markedParams t :=
  List.filter_congr fun x _ => Decorator.any_isMarker_find? t paramMarkerName x.decorators

/-- **The counters of a run agree with the tree**: a run keeps the number of classes, reports on each marked class once,
adds a statement for each promoted parameter, and promotes the marked classes that have a constructor.  Where markers
decide, each marked parameter of the first constructor of a marked class is either promoted or skipped. -/
theorem Module.counters_promote (s : Settings) (file : String) (p : Module Symbol) :
    let p' := (p.promote (s.rules t) file).1
    let R := (p.promote (s.rules t) file).2
    p'.classDecls.length = p.classDecls.length ∧
    R.outcomes.length + R.errors.length = (p.markedClasses t).length ∧
    p'.stmtCount = p.stmtCount + R.propertyCount ∧
    R.classCount = (p.markedClasses t).countP (·.ctor?.isSome) ∧
    (s.eligibility = .perParameter →
      R.propertyCount + R.skipped.length = ((p.markedClasses t).flatMap (·.markedParams t)).length) := by
  intro p' R
  refine ⟨?_, ?_, p.stmtCount_promote _ file, ?_, fun hs => ?_⟩
  · rw [show p' = _ from Module.fst_promote _ file p, Module.classDecls_promoteAll, List.length_map]
  · rw [Module.outcomes_promote, Module.errors_promote, List.filterMap_eq_flatMap_toList,
      List.filterMap_eq_flatMap_toList, ← List.flatMap_singleton' (p.markedClasses t)]
    refine length_flatMap_filter (fun d h => ?_) (fun d h => ?_) p.classDecls
    all_goals
      rw [← d.not_isNone_marker? t s, Option.not_isNone] at h
      rw [d.length_report, h]
      rfl
  · unfold Report.classCount Module.markedClasses
    rw [Module.outcomes_promote, List.countP_filterMap, List.countP_filter]
    refine List.countP_congr fun d _ => ?_
    rw [d.isPromoted_report, d.not_isNone_marker? t s]
  · unfold Report.skipped
    rw [Module.propertyCount_promote, Module.outcomes_promote, List.filterMap_eq_flatMap_toList, List.flatMap_assoc]
    refine length_flatMap_filter (fun d h => ?_) (fun d h => ?_) p.classDecls
    · rw [← d.not_isNone_marker? t s, Bool.not_eq_true'] at h
      rw [ClassDecl.length_added_add_length_skipped hs h, d.filter_isMarked]
    · rw [← d.not_isNone_marker? t s, Bool.not_eq_false'] at h
      rw [ClassDecl.added, ClassDecl.report, ClassDecl.promote_of_unmarked h, h]
      rfl

end Symbols

/-- Two marked classes, one of them without a constructor, and two marked parameters, one of them a rest parameter. -/
theorem Module.counters_promote_ofName :
    let t := NameTable.ofMarkerNames
    let p := Module.ofName ⟨2, by decide⟩ [⟨.ident ⟨default, default⟩, default⟩]
    let run := p.promote (Settings.rules ⟨.perParameter, .error⟩ t) ""
    (run.2.outcomes.length = 1 ∧ run.2.errors.length = 1 ∧ run.2.propertyCount = 1 ∧ run.2.skipped.length = 1) ∧
    run.1.classDecls.length = p.classDecls.length ∧
    run.2.outcomes.length + run.2.errors.length = (p.markedClasses t).length ∧
    run.1.stmtCount = p.stmtCount + run.2.propertyCount ∧
    run.2.classCount = (p.markedClasses t).countP (·.ctor?.isSome) ∧
    run.2.propertyCount + run.2.skipped.length = ((p.markedClasses t).flatMap (·.markedParams t)).length := by
  intro t p run
  have h : run.2.outcomes.length = 1 ∧ run.2.errors.length = 1 ∧ run.2.propertyCount = 1 ∧
      run.2.skipped.length = 1 := by
    unfold run
    rw [Settings.rules, NameTable.markers_ofMarkerNames]
    exact ⟨rfl, rfl, rfl, rfl⟩
  obtain ⟨hc, hr, hs, hn, hp⟩ := Module.counters_promote t ⟨.perParameter, .error⟩ "" p
  exact ⟨h, hc, hr, hs, hn, hp rfl⟩

end Promotion
