import Promotion.Proofs.Counting
/-!
# Where names and spans come from

A run makes up neither names nor spans.  What it adds to a module are assignments, and an assignment holds the name and
the span of the identifier it is for, which binds a parameter of the module (`ClassDecl.ident_mem_nodes_of_added`).  By
the balance of a run, whatever else a node of the new module holds was held by a node of the old one
(`Module.mem_view_of_promote`), and what the report holds is taken from the nodes of the classes it tells of.

The names of a module are all that matters for naming it: `mapNames` comes to a result exactly if every name of the
listing has a name (`Module.exists_mapNames_iff`).
-/
namespace Promotion

variable {ν : Type}

/-! ## Names that can be mapped -/

section Mapped

variable {μ ε : Type} {f : ν → Except ε μ}

/-- The names in a part can be mapped by `f` if and only if each of them has a name under `f`. -/
def Mappable (A : Type → Type) [∀ ν, Part ν (A ν)] [Syntax A] (f : ν → Except ε μ) (x : A ν) : Prop :=
  (∃ x', Syntax.mapNames f x = .ok x') ↔ ∀ n ∈ Part.nodes x, ∀ y ∈ n.names, ∃ y', f y = .ok y'

theorem exists_map_eq_ok_iff {α β : Type} {x : Except ε α} {g : α → β} :
    (∃ b, g <$> x = .ok b) ↔ ∃ a, x = .ok a := by
  simp only [map_eq_ok_iff]
  constructor
  · rintro ⟨b, a, ha, -⟩
    exact ⟨a, ha⟩
  · rintro ⟨a, ha⟩
    exact ⟨g a, a, ha, rfl⟩

theorem exists_bind_eq_ok_iff {α β γ : Type} {x : Except ε α} {y : Except ε β} {g : α → β → γ} :
    (∃ c, (do return g (← x) (← y)) = .ok c) ↔ (∃ a, x = .ok a) ∧ ∃ b, y = .ok b := by
  cases x with
  | error e => simp [bind, Except.bind]
  | ok a => cases y <;> simp [bind, Except.bind, pure, Except.pure]

theorem exists_mapM_eq_ok_iff {α β : Type} {one : α → Except ε β} (xs : List α) :
    (∃ ys, xs.mapM one = .ok ys) ↔ ∀ x ∈ xs, ∃ y, one x = .ok y := by
  induction xs with
  | nil => simp [pure, Except.pure]
  | cons x xs ih => rw [List.mapM_cons, exists_bind_eq_ok_iff, ih, List.forall_mem_cons]

theorem Ident.exists_mapNames_iff (id : Ident ν) : (∃ id', id.mapNames f = .ok id') ↔ ∃ y, f id.name = .ok y := by
  have h : id.mapNames f = (fun y => ⟨y, id.span⟩) <$> f id.name := (map_eq_pure_bind ..).symm
  rw [h, exists_map_eq_ok_iff]

theorem ExportName.exists_mapNames_iff (n : ExportName ν) :
    (∃ n', n.mapNames f = .ok n') ↔ ∀ id ∈ n.idents, ∃ y, f id.name = .ok y := by
  obtain ⟨id, a⟩ := n
  unfold ExportName.mapNames ExportName.idents
  rw [exists_bind_eq_ok_iff, Ident.exists_mapNames_iff, List.forall_mem_cons]
  refine and_congr_right fun _ => ?_
  cases a with
  | none => simp [Ident.mapNamesOpt, pure, Except.pure]
  | some a =>
    have h : Ident.mapNamesOpt f (some a) = some <$> a.mapNames f := (map_eq_pure_bind ..).symm
    rw [h, exists_map_eq_ok_iff, Ident.exists_mapNames_iff]
    simp

theorem Mappable.hereditary (f : ν → Except ε μ) :
    Hereditary fun A [∀ ν, Part ν (A ν)] [Syntax A] (x : A ν) => Mappable A f x where
  noParts := ⟨fun _ => nofun, fun _ => ⟨⟨⟩, rfl⟩⟩
  ident id := by
    have h := id.exists_mapNames_iff (f := f)
    simpa [Mappable, Part.nodes, Node.names, Syntax.mapNames] using h
  str y s := by
    have h : Expr.mapNames f (.str y s) = (Expr.str · s) <$> f y := (map_eq_pure_bind ..).symm
    simp [Mappable, Part.nodes, Expr.nodes, Node.names, Syntax.mapNames, h, exists_map_eq_ok_iff]
  exportNames ns s := by
    have h : Stmt.mapNames f (.exportNames ns s) = (Stmt.exportNames · s) <$> ns.mapM (ExportName.mapNames f) :=
      (map_eq_pure_bind ..).symm
    have hn : (∀ n ∈ ns, ∃ n', n.mapNames f = .ok n') ↔
        ∀ id ∈ ns.flatMap ExportName.idents, ∃ y, f id.name = .ok y := by
      simp only [ExportName.exists_mapNames_iff, List.forall_mem_flatMap]
    have hs : Part.nodes (Stmt.exportNames ns s) = [.stmt (.exportNames ns s)] := rfl
    unfold Mappable
    simp only [Syntax.mapNames, h, exists_map_eq_ok_iff, exists_mapM_eq_ok_iff, hn, hs, List.forall_mem_singleton,
      Node.names, List.forall_mem_map]
  classDef d hd := by
    have h : Stmt.mapNames f (.classDef d) = Stmt.classDef <$> d.mapNames f := (map_eq_pure_bind ..).symm
    unfold Mappable at hd ⊢
    simp only [Syntax.mapNames, Part.nodes] at hd ⊢
    rw [h, exists_map_eq_ok_iff, hd]
    simp [Stmt.nodes, Node.names]
  prod := by
    intro A B _ _ _ _ x y hx hy
    unfold Mappable at *
    have h : Part.nodes (x, y) = Part.nodes x ++ Part.nodes y := rfl
    rw [h, List.forall_mem_append, ← hx, ← hy]
    exact exists_bind_eq_ok_iff
  plain := by
    intro A B _ _ _ _ k hk x hx
    unfold Mappable at *
    rw [hk.mapNames, exists_map_eq_ok_iff, hk.nodes, hx]
  headed := by
    intro A B _ _ _ _ _ k hk x hx
    unfold Mappable at *
    rw [hk.mapNames, exists_map_eq_ok_iff, hk.nodes, List.forall_mem_cons, hk.names, hx]
    simp

/-- **The names of a module can be mapped if and only if each of them can.** -/
theorem Module.exists_mapNames_iff (f : ν → Except ε μ) (p : Module ν) :
    (∃ q, p.mapNames f = .ok q) ↔ ∀ y ∈ p.names, ∃ y', f y = .ok y' :=
  (p.hereditary (Mappable.hereditary f)).trans List.forall_mem_flatMap.symm

end Mapped

/-! ## The nodes of a class are nodes of the module -/

/-- What stands in a class of a part stands in the part. -/
def Part.Encloses {α : Type} [Part ν α] (x : α) : Prop :=
  ∀ d ∈ Part.classes x, ∀ n ∈ d.nodes, n ∈ Part.nodes x

theorem Part.Encloses.hereditary : Hereditary fun A [∀ ν, Part ν (A ν)] [Syntax A] (x : A ν) => Encloses x where
  noParts := nofun
  ident _ := nofun
  str _ _ := nofun
  exportNames _ _ := nofun
  classDef d hd := by
    intro c hc n hn
    have hn' : n ∈ d.nodes → n ∈ Part.nodes (Stmt.classDef d) := List.mem_cons_of_mem _
    rcases List.mem_cons.1 (show c ∈ d :: Part.classes d from hc) with rfl | hc
    · exact hn' hn
    · exact hn' (List.mem_cons_of_mem _ (hd c hc n hn))
  prod := by
    intro A B _ _ _ _ x y hx hy d hd n hn
    have hc : Part.classes (x, y) = Part.classes x ++ Part.classes y := Node.classes_append _ _
    rw [hc] at hd
    refine List.mem_append.2 ?_
    rcases List.mem_append.1 hd with hd | hd
    · exact .inl (hx d hd n hn)
    · exact .inr (hy d hd n hn)
  plain := by
    intro A B _ _ _ _ k hk x hx d hd n hn
    rw [hk.wrap.classes] at hd
    rw [hk.nodes]
    exact hx d hd n hn
  headed := by
    intro A B _ _ _ _ _ k hk x hx d hd n hn
    rw [hk.wrap.classes] at hd
    rw [hk.nodes]
    exact List.mem_cons_of_mem _ (hx d hd n hn)

theorem Module.mem_nodes_of_class {p : Module ν} {d : ClassDecl ν} (hd : d ∈ p.classDecls) :
    ∀ n ∈ d.nodes, n ∈ p.nodes :=
  p.hereditary Part.Encloses.hereditary d hd

namespace ClassDecl

theorem ident_name_mem_nodes (d : ClassDecl ν) : .ident d.name ∈ d.nodes := by
  obtain ⟨ds, n, b, ms, s⟩ := d
  simp [ClassDecl.nodes, ClassDecl.inside]

theorem mem_nodes_of_ctorParam {d : ClassDecl ν} {x : Param ν} (hx : x ∈ d.ctorParams) :
    ∀ n ∈ x.nodes, n ∈ d.nodes := by
  intro n hn
  have hm : ∀ (ms : List (Member ν)) (c : Ctor ν), Member.ctor? ms = some c → x ∈ c.params →
      n ∈ Member.nodesAll ms := by
    intro ms c hc hx
    induction ms with
    | nil => cases hc
    | cons m ms ih =>
      cases m with
      | ctor c' =>
        obtain rfl := Option.some.inj hc
        obtain ⟨ps, b, s⟩ := c'
        have : n ∈ Param.nodesAll ps := by
          rw [Param.nodesAll_eq]
          exact List.mem_flatMap.2 ⟨x, hx, hn⟩
        simp [Member.nodesAll, Member.nodes, Ctor.nodes, this]
      | field => exact List.mem_append_right _ (ih hc)
      | method => exact List.mem_append_right _ (ih hc)
  unfold ClassDecl.ctorParams at hx
  obtain ⟨ds, name, b, ms, s⟩ := d
  cases hc : Member.ctor? ms with
  | none =>
    rw [ClassDecl.ctor?, hc] at hx
    cases hx
  | some c =>
    rw [ClassDecl.ctor?, hc] at hx
    simp [ClassDecl.nodes, ClassDecl.inside, hm ms c hc hx]

variable [DecidableEq ν] {r : Rules ν}

/-- The identifiers that promotion adds assignments for are those of parameters. -/
theorem exists_param_of_added {d : ClassDecl ν} {id : Ident ν} (h : id ∈ d.added r) :
    ∃ x ∈ d.ctorParams, x.pattern = .ident id := by
  unfold ClassDecl.added at h
  split at h
  · cases h
  · unfold ClassDecl.ctorParams
    cases hc : d.ctor? with
    | none =>
      rw [hc] at h
      cases h
    | some c =>
      rw [hc] at h
      obtain ⟨x, hx, hi⟩ := List.mem_filterMap.1 h
      refine ⟨x, hx, ?_⟩
      unfold Param.promoted? at hi
      split at hi
      · obtain ⟨ds, p, v, s⟩ := x
        cases p with
        | ident id' => exact congrArg Pattern.ident (Option.some.inj hi)
        | _ => cases hi
      · cases hi

theorem ident_mem_nodes_of_added {d : ClassDecl ν} {id : Ident ν} (h : id ∈ d.added r) : .ident id ∈ d.nodes := by
  obtain ⟨x, hx, hp⟩ := exists_param_of_added h
  refine mem_nodes_of_ctorParam hx _ ?_
  obtain ⟨ds, p, v, s⟩ := x
  obtain rfl : p = .ident id := hp
  simp [Param.nodes, Pattern.nodes]

end ClassDecl

theorem Ident.spans_of_mem_assignment (id : Ident ν) : ∀ n ∈ id.assignment.nodes, n.spans = [id.span] := by
  simp [Ident.assignment, Stmt.nodes, Expr.nodes, Node.spans]

theorem Ident.names_of_mem_assignment (id : Ident ν) : ∀ n ∈ id.assignment.nodes, ∀ y ∈ n.names, y = id.name := by
  simp [Ident.assignment, Stmt.nodes, Expr.nodes, Node.names]

/-! ## What the nodes hold after a run -/

/-- **What the nodes hold after a run was held by nodes before it**, if it is told by what a node holds by itself and an
assignment holds no more than its identifier. -/
theorem Module.mem_view_of_promote [DecidableEq ν] {β : Type} [DecidableEq β] (r : Rules ν) (file : String)
    (p : Module ν) {view : Node ν → List β}
    (hv : ∀ n n' : Node ν, n.isStmt = n'.isStmt → n.names = n'.names → n.spans = n'.spans → view n = view n')
    (ha : ∀ id : Ident ν, ∀ n ∈ id.assignment.nodes, ∀ b ∈ view n, b ∈ view (.ident id)) :
    ∀ b ∈ (p.promote r file).1.nodes.flatMap view, b ∈ p.nodes.flatMap view := by
  intro b hb
  obtain ⟨n, hn, hb⟩ := List.mem_flatMap.1 hb
  have hq : Node.Own fun n : Node ν => decide (b ∈ view n) :=
    fun n n' hi hn hs => congrArg (fun l => decide (b ∈ l)) (hv n n' hi hn hs)
  obtain ⟨n', hn', hb'⟩ := (p.balanced_promote hq r file).exists_mem hn (decide_eq_true hb)
  have hb' := of_decide_eq_true hb'
  rcases List.mem_append.1 hn' with hn' | hn'
  · exact List.mem_flatMap.2 ⟨n', hn', hb'⟩
  · obtain ⟨d, hd, hn'⟩ := List.mem_flatMap.1 hn'
    obtain ⟨id, hid, hn'⟩ := List.mem_flatMap.1 hn'
    have hi := Module.mem_nodes_of_class hd _ (ClassDecl.ident_mem_nodes_of_added hid)
    exact List.mem_flatMap.2 ⟨.ident id, hi, ha id n' hn' b hb'⟩

section Views

variable [DecidableEq ν] (r : Rules ν) (file : String) (p : Module ν)

theorem Module.mem_names_of_promote : ∀ y ∈ (p.promote r file).1.names, y ∈ p.names := by
  refine p.mem_view_of_promote r file (fun _ _ _ h _ => h) fun id n hn y hy => ?_
  rw [id.names_of_mem_assignment n hn y hy]
  exact List.mem_singleton_self _

theorem Module.mem_spans_of_promote : ∀ z ∈ (p.promote r file).1.spans, z ∈ p.spans := by
  have hs : (p.promote r file).1.span = p.span := by
    rw [Module.fst_promote, Module.promoteAll_eq]
    rfl
  refine List.forall_mem_cons.2 ⟨hs ▸ List.mem_cons_self, fun z hz => List.mem_cons_of_mem _ ?_⟩
  refine p.mem_view_of_promote r file (fun _ _ _ _ h => h) (fun id n hn z hz => ?_) z hz
  rwa [id.spans_of_mem_assignment n hn] at hz

end Views

/-! ## The statements that a run inserts -/

section Inserted

variable [DecidableEq ν] (r : Rules ν)

/-- `c'` has the body of `c`, its classes promoted, with statements inserted in one place, one for each of the
parameters that bind the identifiers `ids`, and each with the span of the identifier on all its nodes. -/
structure Ctor.Inserted (ids : List (Ident ν)) (c c' : Ctor ν) : Prop where
  params : ∀ id ∈ ids, ∃ x ∈ c.params, x.pattern = .ident id
  body : ∃ pre inserted post : List (Stmt ν), c.body.statements = pre ++ post ∧
    c'.body.statements = pre.map (Part.replace (ClassDecl.promoteAll r)) ++ inserted ++
      post.map (Part.replace (ClassDecl.promoteAll r)) ∧
    List.Forall₂ (fun id x => ∀ n ∈ x.nodes, n.spans = [id.span]) ids inserted

theorem ClassDecl.inserted_promoteAll {d : ClassDecl ν} {c : Ctor ν} (hc : d.ctor? = some c) :
    ∃ c', (d.promoteAll r).ctor? = some c' ∧ c.Inserted r (d.added r) c' := by
  have hp : ∀ id ∈ d.added r, ∃ x ∈ c.params, x.pattern = .ident id := by
    intro id hid
    obtain ⟨x, hx, h⟩ := exists_param_of_added hid
    rw [ClassDecl.ctorParams, hc] at hx
    exact ⟨x, hx, h⟩
  rw [promoteAll_eq, ctor?_replace]
  cases hm : (d.marker? r.markers).isNone with
  | true =>
    rw [promote_of_unmarked hm, hc]
    have ha : d.added r = [] := by rw [ClassDecl.added, hm]; rfl
    refine ⟨_, rfl, hp, ?_⟩
    obtain ⟨ps, ⟨ss, s⟩, s'⟩ := c
    rw [Ctor.replace_mk, ha]
    exact ⟨ss, [], [], by simp, by simp, .nil⟩
  | false =>
    rw [ctor?_promote hm, hc]
    have ha : d.added r = c.promoted r := by rw [ClassDecl.added, hm, hc]; rfl
    refine ⟨_, rfl, hp, ?_⟩
    rw [ha]
    obtain ⟨ps, ⟨ss, s⟩, s'⟩ := c
    unfold Ctor.promote
    rw [Ctor.replace_mk]
    generalize Ctor.promoted r _ = ids
    refine ⟨ss.take (insertionIndex ss), ids.map Ident.assignment, ss.drop (insertionIndex ss),
      (List.take_append_drop ..).symm, ?_, ?_⟩
    · simp only [insertAssignments, List.map_append, List.map_map]
      -- the assignments hold no class
      rfl
    · exact List.forall₂_map_right_iff.2 (List.forall₂_same.2 fun id _ => id.spans_of_mem_assignment)

end Inserted

/-! ## What a report holds -/

namespace Outcome

def names : Outcome ν → List ν
  | .untouched => []
  | .noConstructor c _ => [c]
  | .promoted p => p.className :: (p.properties ++ p.skipped.map (·.className))

def spans : Outcome ν → List Span
  | .untouched => []
  | .noConstructor _ s => [s]
  | .promoted p => p.span :: p.skipped.map (·.span)

end Outcome

section Report

variable [DecidableEq ν] {r : Rules ν}

/-- What the report on a class holds stands in the class. -/
theorem ClassDecl.mem_of_outcome?_report {d : ClassDecl ν} {o : Outcome ν} (h : (d.report r).outcome? = some o) :
    (∀ y ∈ o.names, y ∈ d.nodes.flatMap Node.names) ∧ ∀ z ∈ o.spans, z ∈ d.nodes.flatMap Node.spans := by
  have hn : d.name.name ∈ d.nodes.flatMap Node.names :=
    List.mem_flatMap.2 ⟨_, d.ident_name_mem_nodes, List.mem_singleton_self _⟩
  have hs : d.span ∈ d.nodes.flatMap Node.spans :=
    List.mem_flatMap.2 ⟨_, List.mem_cons_self, List.mem_singleton_self _⟩
  unfold ClassDecl.report at h
  cases hm : (d.marker? r.markers).isNone with
  | true =>
    rw [promote_of_unmarked hm] at h
    cases h
  | false =>
    cases hc : d.ctor? with
    | none =>
      rw [promote_of_noCtor hm hc] at h
      cases hr : r.settings.missingConstructor with
      | error =>
        rw [hr] at h
        cases h
      | ignore =>
        rw [hr] at h
        obtain rfl := Option.some.inj h
        exact ⟨List.forall_mem_singleton.2 hn, List.forall_mem_singleton.2 hs⟩
    | some c =>
      rw [promote_of_ctor hm hc] at h
      obtain rfl := Option.some.inj h
      have hx : ∀ x ∈ c.params, x ∈ d.ctorParams := fun x hx => by rwa [ClassDecl.ctorParams, hc]
      have ha : d.added r = c.promoted r := by rw [ClassDecl.added, hm, hc]; rfl
      refine ⟨List.forall_mem_cons.2 ⟨hn, List.forall_mem_append.2 ⟨?_, ?_⟩⟩, List.forall_mem_cons.2 ⟨hs, ?_⟩⟩
      · refine List.forall_mem_map.2 fun id hid => ?_
        rw [← ha] at hid
        exact List.mem_flatMap.2 ⟨_, ident_mem_nodes_of_added hid, List.mem_singleton_self _⟩
      · refine List.forall_mem_map.2 fun k hk => ?_
        obtain ⟨x, -, hk⟩ := List.mem_filterMap.1 hk
        obtain ⟨shape, -, rfl⟩ := Option.map_eq_some_iff.1 hk
        exact hn
      · refine List.forall_mem_map.2 fun k hk => ?_
        obtain ⟨x, hp, hk⟩ := List.mem_filterMap.1 hk
        obtain ⟨shape, -, rfl⟩ := Option.map_eq_some_iff.1 hk
        have hn : .param x ∈ x.nodes := by cases x; exact List.mem_cons_self
        exact List.mem_flatMap.2 ⟨_, mem_nodes_of_ctorParam (hx x hp) _ hn, List.mem_singleton_self _⟩

theorem ClassDecl.mem_of_error?_report {d : ClassDecl ν} {e : NoConstructorError ν} (h : (d.report r).error? = some e) :
    e.className ∈ d.nodes.flatMap Node.names ∧ e.span ∈ d.nodes.flatMap Node.spans := by
  obtain ⟨-, -, rfl⟩ := of_error?_report h
  exact ⟨List.mem_flatMap.2 ⟨_, d.ident_name_mem_nodes, List.mem_singleton_self _⟩,
    List.mem_flatMap.2 ⟨_, List.mem_cons_self, List.mem_singleton_self _⟩⟩

omit [DecidableEq ν] in
theorem Module.mem_view_of_class {β : Type} {view : Node ν → List β} {p : Module ν} {d : ClassDecl ν}
    (hd : d ∈ p.classDecls) : ∀ b ∈ d.nodes.flatMap view, b ∈ p.nodes.flatMap view := by
  intro b hb
  obtain ⟨n, hn, hb⟩ := List.mem_flatMap.1 hb
  exact List.mem_flatMap.2 ⟨n, Module.mem_nodes_of_class hd n hn, hb⟩

end Report

/-- **A run makes up no name and no span.**  What stands in the module after a run stood in it before.  The statements
that a run inserts are one for each promoted parameter, all in the constructor of the parameter and all under the span
of its identifier.  Outcomes and errors hold names and spans of the module.  So a module that can be named in a table
can be named in it after a run. -/
theorem Module.provenance_promote (t : NameTable) (s : Settings) (file : String) (p : Module Symbol) :
    let r := s.rules t
    let p' := (p.promote r file).1
    let R := (p.promote r file).2
    ((∀ y ∈ p'.names, y ∈ p.names) ∧ ∀ z ∈ p'.spans, z ∈ p.spans) ∧
    (∀ d d', (d, d') ∈ p.classDecls.zip p'.classDecls → ∀ c, d.ctor? = some c →
      ∃ c', d'.ctor? = some c' ∧ c.Inserted r (d.added r) c') ∧
    p'.stmtCount = p.stmtCount + (p.classDecls.flatMap (·.added r)).length ∧
    (∀ o ∈ R.outcomes, (∀ y ∈ o.names, y ∈ p.names) ∧ ∀ z ∈ o.spans, z ∈ p.spans) ∧
    (∀ e ∈ R.errors, e.className ∈ p.names ∧ e.span ∈ p.spans) ∧
    ((∃ q, p.mapNames t.resolve = .ok q) → ∃ q', p'.mapNames t.resolve = .ok q') := by
  intro r p' R
  have hn := p.mem_names_of_promote r file
  refine ⟨⟨hn, p.mem_spans_of_promote r file⟩, ?_, ?_, ?_, ?_, ?_⟩
  · intro d d' hd c hc
    rw [show p' = _ from p.fst_promote r file, Module.classDecls_promoteAll, ← List.map_prod_left_eq_zip] at hd
    obtain ⟨_, -, hd⟩ := List.mem_map.1 hd
    cases hd
    exact ClassDecl.inserted_promoteAll r hc
  · rw [← p.propertyCount_promote r file]
    exact p.stmtCount_promote r file
  · intro o ho
    rw [Module.outcomes_promote] at ho
    obtain ⟨d, hd, ho⟩ := List.mem_filterMap.1 ho
    obtain ⟨hy, hz⟩ := ClassDecl.mem_of_outcome?_report ho
    exact ⟨fun y h => Module.mem_view_of_class hd y (hy y h),
      fun z h => List.mem_cons_of_mem _ (Module.mem_view_of_class hd z (hz z h))⟩
  · intro e he
    rw [Module.errors_promote] at he
    obtain ⟨d, hd, he⟩ := List.mem_filterMap.1 he
    obtain ⟨hy, hz⟩ := ClassDecl.mem_of_error?_report he
    exact ⟨Module.mem_view_of_class hd _ hy, List.mem_cons_of_mem _ (Module.mem_view_of_class hd _ hz)⟩
  · rw [Module.exists_mapNames_iff, Module.exists_mapNames_iff]
    exact fun h y hy => h y (hn y hy)

/-- Two marked classes, one without a constructor, and a promoted parameter beside one that is left. -/
theorem Module.provenance_promote_ofName :
    let t := NameTable.ofMarkerNames
    let p := Module.ofName ⟨2, by decide⟩ [⟨.ident ⟨default, default⟩, default⟩]
    let run := p.promote (Settings.rules ⟨.perParameter, .error⟩ t) ""
    (∃ q, p.mapNames t.resolve = .ok q) ∧ run.2.outcomes.length = 1 ∧ run.2.errors.length = 1 ∧
    run.1.stmtCount = p.stmtCount + 1 ∧
    ((∀ y ∈ run.1.names, y ∈ p.names) ∧ ∀ z ∈ run.1.spans, z ∈ p.spans) ∧
    (∀ o ∈ run.2.outcomes, (∀ y ∈ o.names, y ∈ p.names) ∧ ∀ z ∈ o.spans, z ∈ p.spans) ∧
    (∀ e ∈ run.2.errors, e.className ∈ p.names ∧ e.span ∈ p.spans) ∧
    ∃ q', run.1.mapNames t.resolve = .ok q' := by
  intro t p run
  have hq : ∃ q, p.mapNames t.resolve = .ok q :=
    ⟨Module.ofName classMarkerName [⟨.ident ⟨paramMarkerName, default⟩, default⟩], rfl⟩
  have h : run.2.outcomes.length = 1 ∧ run.2.errors.length = 1 ∧
      (p.classDecls.flatMap (·.added (Settings.rules ⟨.perParameter, .error⟩ t))).length = 1 := by
    unfold run
    rw [Settings.rules, NameTable.markers_ofMarkerNames]
    exact ⟨rfl, rfl, rfl⟩
  obtain ⟨ho, he, ha⟩ := h
  obtain ⟨hn, -, hs, hy, hz, hv⟩ := Module.provenance_promote t ⟨.perParameter, .error⟩ "" p
  rw [ha] at hs
  exact ⟨hq, ho, he, hs, hn, hy, hz, hv hq⟩

end Promotion
