import Promotion.Proofs.Drafting
/-!
# What promotion makes of one class

`ClassDecl.Promotes` says what becomes of a class and what is reported on it, in terms of the text of the decorators, of
the first constructor among the members and of the first call of the base constructor in its body.  It mentions none of
the functions that promote.  The relation holds of exactly one class and one result, and these are what
`ClassDecl.promote` comes to (`ClassDecl.promotes_iff_promote_eq`).
-/
namespace Promotion

variable {t : NameTable} {s : Settings}

/-! ## The relation -/

/-- Whether the decorator is the plain name `n`. -/
def Decorator.isNamed (t : NameTable) (n : String) (e : Decorator Symbol) : Bool := e.bareName.any (t.reads n)

/-- The identifier of a parameter that is to be promoted: it binds a single name, and it carries the parameter marker or
the settings promote all parameters. -/
def Param.eligible? (t : NameTable) (s : Settings) (p : Param Symbol) : Option (Ident Symbol) :=
  match p.pattern with
  | .ident id =>
    if Decorator.mentionIn t paramMarkerName p.decorators || s.eligibility = .allParameters then some id else none
  | _ => none

/-- What is reported on a parameter of the class `y` that carries the parameter marker and binds no single name. -/
def Param.obstacle? (t : NameTable) (y : Symbol) (p : Param Symbol) : Option (Skipped Symbol) :=
  if Decorator.mentionIn t paramMarkerName p.decorators then p.pattern.shape?.map (⟨y, ·, p.span⟩) else none

/-- `p'` is the parameter `p`, without its parameter markers if it is to be promoted. -/
structure Param.Promotes (t : NameTable) (s : Settings) (p p' : Param Symbol) : Prop where
  pattern : p'.pattern = p.pattern
  default : p'.default = p.default
  span : p'.span = p.span
  decorators : p'.decorators =
    if (p.eligible? t s).isSome then p.decorators.filter (!·.isNamed t paramMarkerName) else p.decorators

/-- A body divided where assignments go: behind its first call of the base constructor, at the given index, or in front
if there is no such call. -/
inductive Divided {ν : Type} : (front back : List (Stmt ν)) → Option Nat → Prop where
  | atFront {back : List (Stmt ν)} : (∀ x ∈ back, x.isSuperCall = false) → Divided [] back none
  | behind {before back : List (Stmt ν)} {x : Stmt ν} :
    (∀ x ∈ before, x.isSuperCall = false) → x.isSuperCall = true → Divided (before ++ [x]) back (some before.length)

/-- `c'` is the constructor `c` with its eligible parameters promoted, and `call` is where it calls the base. -/
structure Ctor.Promotes (t : NameTable) (s : Settings) (c c' : Ctor Symbol) (call : Option Nat) : Prop where
  span : c'.span = c.span
  bodySpan : c'.body.span = c.body.span
  params : List.Forall₂ (Param.Promotes t s) c.params c'.params
  body : ∃ front back, c.body.statements = front ++ back ∧ Divided front back call ∧
    c'.body.statements = front ++ (c.params.filterMap (·.eligible? t s)).map Ident.assignment ++ back

/-- What becomes of the class `d`, and what is reported on it. -/
inductive ClassDecl.Promotes (t : NameTable) (s : Settings) (d : ClassDecl Symbol) :
    ClassDecl Symbol → Except (NoConstructorError Symbol) (Outcome Symbol) → Prop where
  | untouched : Decorator.mentionIn t classMarkerName d.decorators = false → Promotes t s d d (.ok .untouched)
  | noConstructor : Decorator.mentionIn t classMarkerName d.decorators = true → (∀ x ∈ d.members, ∀ c, x ≠ .ctor c) →
    s.missingConstructor = .ignore →
    Promotes t s d { d with decorators := d.decorators.filter (!·.isNamed t classMarkerName) }
      (.ok (.noConstructor d.name.name d.span))
  | error : Decorator.mentionIn t classMarkerName d.decorators = true → (∀ x ∈ d.members, ∀ c, x ≠ .ctor c) →
    s.missingConstructor = .error →
    Promotes t s d { d with decorators := d.decorators.filter (!·.isNamed t classMarkerName) }
      (.error ⟨d.name.name, d.span⟩)
  | promoted {before after : List (Member Symbol)} {c c' : Ctor Symbol} {call : Option Nat} :
    Decorator.mentionIn t classMarkerName d.decorators = true → (∀ x ∈ before, ∀ c, x ≠ .ctor c) →
    d.members = before ++ .ctor c :: after → c.Promotes t s c' call →
    Promotes t s d
      { d with
        decorators := d.decorators.filter (!·.isNamed t classMarkerName)
        members := before ++ .ctor c' :: after }
      (.ok (.promoted
        { className := d.name.name
          span := d.span
          properties := (c.params.filterMap (·.eligible? t s)).map (·.name)
          superCall := call
          skipped := c.params.filterMap (·.obstacle? t d.name.name) }))

/-! ## Markers by their text -/

theorem Decorator.isMarker_find?_eq (n : String) (e : Decorator Symbol) :
    e.isMarker (t.find? n) = e.isNamed t n := by
  rw [Bool.eq_iff_iff, isMarker_iff, isNamed, Option.any_eq_true]
  exact exists_congr fun y => and_congr_right fun _ => (t.reads_iff n y).symm

theorem Decorator.strip_find?_eq (n : String) (es : List (Decorator Symbol)) :
    strip (t.find? n) es = es.filter (!·.isNamed t n) :=
  List.filter_congr fun e _ => congrArg (!·) (e.isMarker_find?_eq n)

theorem ClassDecl.isNone_marker?_eq_not_mentionIn (d : ClassDecl Symbol) :
    (d.marker? (s.rules t).markers).isNone = !Decorator.mentionIn t classMarkerName d.decorators := by
  rw [← d.not_isNone_marker? t s, Bool.not_not]

theorem ClassDecl.isNone_marker?_of_mentionIn {d : ClassDecl Symbol}
    (h : Decorator.mentionIn t classMarkerName d.decorators = true) :
    (d.marker? (s.rules t).markers).isNone = false := by
  rw [isNone_marker?_eq_not_mentionIn, h]
  rfl

/-! ## Parameters -/

namespace Param

theorem isMarked_eq_mentionIn (p : Param Symbol) :
    p.isMarked (s.rules t).markers = Decorator.mentionIn t paramMarkerName p.decorators :=
  Decorator.any_isMarker_find? t paramMarkerName p.decorators

theorem promoted?_eq_eligible? (p : Param Symbol) : p.promoted? (s.rules t) = p.eligible? t s := by
  rw [promoted?, isMarked_eq_mentionIn, eligible?, ident?]
  cases p.pattern with
  | ident id => rfl
  | _ => exact ite_self _

theorem skipped?_eq_obstacle? (y : Symbol) (p : Param Symbol) :
    (p.skipped? (s.rules t)).map (⟨y, ·, p.span⟩) = p.obstacle? t y := by
  rw [skipped?, isMarked_eq_mentionIn, obstacle?]
  split <;> rfl

theorem promote_eq_with (p : Param Symbol) : p.promote (s.rules t) =
    { p with decorators :=
      if (p.eligible? t s).isSome then p.decorators.filter (!·.isNamed t paramMarkerName) else p.decorators } := by
  rw [promote, promoted?_eq_eligible?]
  split
  · rw [← Decorator.strip_find?_eq]
    rfl
  · cases p
    rfl

theorem promotes_iff {p p' : Param Symbol} : p.Promotes t s p' ↔ p.promote (s.rules t) = p' := by
  rw [promote_eq_with]
  constructor
  · rintro ⟨hp, hx, hs, hd⟩
    rw [← hd, ← hp, ← hx, ← hs]
    cases p'
    rfl
  · rintro rfl
    exact ⟨rfl, rfl, rfl, rfl⟩

end Param

/-! ## The body -/

section Body

variable {ν : Type} {front back : List (Stmt ν)} {call : Option Nat}

theorem Divided.superCall?_append (h : Divided front back call) : superCall? (front ++ back) = call := by
  cases h with
  | atFront hb => exact List.findIdx?_eq_none_iff.2 hb
  | @behind before _ x hb hx =>
    have hn : before.findIdx? Stmt.isSuperCall = none := List.findIdx?_eq_none_iff.2 hb
    rw [superCall?, List.append_assoc, List.findIdx?_append, hn, List.singleton_append, List.findIdx?_cons, hx]
    simp

theorem Divided.insertionIndex_append (h : Divided front back call) :
    insertionIndex (front ++ back) = front.length := by
  rw [insertionIndex, h.superCall?_append]
  cases h <;> simp

theorem Divided.insertAssignments_append (h : Divided front back call) (xs : List (Stmt ν)) :
    insertAssignments (front ++ back) xs = front ++ xs ++ back := by
  rw [insertAssignments, h.insertionIndex_append, List.take_left, List.drop_left]

theorem exists_divided (body : List (Stmt ν)) :
    ∃ front back, body = front ++ back ∧ Divided front back (superCall? body) := by
  cases h : superCall? body with
  | none => exact ⟨[], body, rfl, .atFront (List.findIdx?_eq_none_iff.1 h)⟩
  | some i =>
    obtain ⟨hi, hx, hb⟩ := List.findIdx?_eq_some_iff_getElem.1 h
    have hl : (body.take i).length = i := List.length_take_of_le (Nat.le_of_lt hi)
    have hf : ∀ x ∈ body.take i, x.isSuperCall = false := by
      intro x hx
      obtain ⟨j, hj, rfl⟩ := List.mem_iff_getElem.1 hx
      rw [hl] at hj
      rw [List.getElem_take]
      exact Bool.eq_false_iff.2 (hb j hj)
    have hd : Divided (body.take i ++ [body[i]]) (body.drop (i + 1)) (some (body.take i).length) := .behind hf hx
    rw [hl] at hd
    refine ⟨_, _, ?_, hd⟩
    rw [List.append_assoc, List.singleton_append, List.getElem_cons_drop, List.take_append_drop]

end Body

/-! ## The constructor -/

namespace Ctor

variable {c c' : Ctor Symbol} {call : Option Nat}

theorem promoted_eq_eligible (c : Ctor Symbol) : c.promoted (s.rules t) = c.params.filterMap (·.eligible? t s) :=
  List.filterMap_congr fun p _ => p.promoted?_eq_eligible?

theorem promotes_iff :
    c.Promotes t s c' call ↔ c.promote (s.rules t) = c' ∧ superCall? c.body.statements = call := by
  have hp : List.Forall₂ (Param.Promotes t s) c.params c'.params ↔
      c.params.map (·.promote (s.rules t)) = c'.params := by
    rw [← List.forall₂_eq_eq_eq, List.forall₂_map_left_iff]
    exact ⟨fun h => h.imp fun _ _ => Param.promotes_iff.1, fun h => h.imp fun _ _ => Param.promotes_iff.2⟩
  constructor
  · rintro ⟨hs, hbs, hps, front, back, hb, hd, hb'⟩
    rw [hp] at hps
    refine ⟨?_, hb ▸ hd.superCall?_append⟩
    have he : c.promote (s.rules t) = ⟨c.params.map (·.promote (s.rules t)),
      ⟨insertAssignments c.body.statements ((c.promoted (s.rules t)).map Ident.assignment), c.body.span⟩, c.span⟩ := rfl
    rw [he, promoted_eq_eligible, hb, hd.insertAssignments_append, ← hb', hps, ← hbs, ← hs]
    obtain ⟨ps', ⟨ss', bs'⟩, s'⟩ := c'
    rfl
  · rintro ⟨rfl, rfl⟩
    obtain ⟨front, back, hb, hd⟩ := exists_divided c.body.statements
    refine ⟨rfl, rfl, hp.2 rfl, front, back, hb, hd, ?_⟩
    rw [← promoted_eq_eligible, ← hd.insertAssignments_append, ← hb]
    rfl

end Ctor

/-! ## The members -/

namespace Member

variable {ν : Type} {before after ms : List (Member ν)} {c : Ctor ν}

theorem ctor?_append (h : ∀ x ∈ before, ∀ c, x ≠ .ctor c) : ctor? (before ++ .ctor c :: after) = some c := by
  induction before with
  | nil => rfl
  | cons x xs ih =>
    obtain ⟨hx, hxs⟩ := List.forall_mem_cons.1 h
    rw [List.cons_append, ctor?, ih hxs]
    exact hx

theorem mapCtor_append (f : Ctor ν → Ctor ν) (h : ∀ x ∈ before, ∀ c, x ≠ .ctor c) :
    mapCtor f (before ++ .ctor c :: after) = before ++ .ctor (f c) :: after := by
  induction before with
  | nil => rfl
  | cons x xs ih =>
    obtain ⟨hx, hxs⟩ := List.forall_mem_cons.1 h
    rw [List.cons_append, mapCtor, ih hxs, List.cons_append]
    exact hx

theorem ctor?_eq_none_iff : ctor? ms = none ↔ ∀ x ∈ ms, ∀ c, x ≠ .ctor c := by
  induction ms with
  | nil => exact ⟨fun _ => nofun, fun _ => rfl⟩
  | cons x xs ih =>
    rw [List.forall_mem_cons, ← ih]
    cases x with
    | ctor c => simp [ctor?]
    | _ => simp [ctor?]

theorem exists_append_of_ctor? (h : ctor? ms = some c) :
    ∃ before after, ms = before ++ .ctor c :: after ∧ ∀ x ∈ before, ∀ c, x ≠ .ctor c := by
  induction ms with
  | nil => cases h
  | cons x xs ih =>
    cases x with
    | ctor c' =>
      obtain rfl := Option.some.inj h
      exact ⟨[], xs, rfl, nofun⟩
    | _ =>
      obtain ⟨before, after, rfl, hb⟩ := ih h
      exact ⟨_ :: before, after, rfl, List.forall_mem_cons.2 ⟨nofun, hb⟩⟩

end Member

/-! ## The class -/

namespace ClassDecl

variable {d d' : ClassDecl Symbol} {result : Except (NoConstructorError Symbol) (Outcome Symbol)}

theorem stripMarkers_eq (d : ClassDecl Symbol) : d.stripMarkers (s.rules t).markers =
    { d with decorators := d.decorators.filter (!·.isNamed t classMarkerName) } := by
  rw [← Decorator.strip_find?_eq]
  rfl

theorem promoted_eq (d : ClassDecl Symbol) (c : Ctor Symbol) : d.promoted (s.rules t) c =
    { className := d.name.name
      span := d.span
      properties := (c.params.filterMap (·.eligible? t s)).map (·.name)
      superCall := superCall? c.body.statements
      skipped := c.params.filterMap (·.obstacle? t d.name.name) } := by
  have hs : ∀ p ∈ c.params, (p.skipped? (s.rules t)).map (⟨d.name.name, ·, p.span⟩) = p.obstacle? t d.name.name :=
    fun p _ => p.skipped?_eq_obstacle? d.name.name
  rw [promoted, Ctor.promoted_eq_eligible, List.filterMap_congr hs]

/-- The relation determines the class and the result. -/
theorem Promotes.eq (h : d.Promotes t s d' result) :
    d' = (d.promote (s.rules t)).1 ∧ result = (d.promote (s.rules t)).2.result := by
  cases h with
  | untouched hm =>
    rw [promote_of_unmarked (by rw [isNone_marker?_eq_not_mentionIn, hm]; rfl)]
    exact ⟨rfl, rfl⟩
  | noConstructor hm hc hs =>
    rw [promote_of_noCtor (isNone_marker?_of_mentionIn hm) (Member.ctor?_eq_none_iff.2 hc), stripMarkers_eq]
    have hs : (s.rules t).settings.missingConstructor = .ignore := hs
    rw [hs]
    exact ⟨rfl, rfl⟩
  | error hm hc hs =>
    rw [promote_of_noCtor (isNone_marker?_of_mentionIn hm) (Member.ctor?_eq_none_iff.2 hc), stripMarkers_eq]
    have hs : (s.rules t).settings.missingConstructor = .error := hs
    rw [hs]
    exact ⟨rfl, rfl⟩
  | @promoted before after c c' call hm hb hd hc =>
    obtain ⟨rfl, rfl⟩ := Ctor.promotes_iff.1 hc
    have hx : d.ctor? = some c := by rw [ctor?, hd, Member.ctor?_append hb]
    rw [promote_of_ctor (isNone_marker?_of_mentionIn hm) hx, stripMarkers_eq, promoted_eq, mapCtor, hd,
      Member.mapCtor_append _ hb]
    exact ⟨rfl, rfl⟩

theorem promotes_promote (t : NameTable) (s : Settings) (d : ClassDecl Symbol) :
    d.Promotes t s (d.promote (s.rules t)).1 (d.promote (s.rules t)).2.result := by
  cases hn : (d.marker? (s.rules t).markers).isNone with
  | true =>
    rw [promote_of_unmarked hn]
    rw [isNone_marker?_eq_not_mentionIn, Bool.not_eq_true'] at hn
    exact .untouched hn
  | false =>
    have hm : Decorator.mentionIn t classMarkerName d.decorators = true := by
      rwa [isNone_marker?_eq_not_mentionIn, Bool.not_eq_false'] at hn
    cases hx : d.ctor? with
    | some c =>
      obtain ⟨before, after, hd, hb⟩ := Member.exists_append_of_ctor? hx
      rw [promote_of_ctor hn hx, stripMarkers_eq, promoted_eq, mapCtor, hd, Member.mapCtor_append _ hb]
      exact .promoted hm hb hd (Ctor.promotes_iff.2 ⟨rfl, rfl⟩)
    | none =>
      have hc := Member.ctor?_eq_none_iff.1 hx
      rw [promote_of_noCtor hn hx, stripMarkers_eq]
      cases hs : (s.rules t).settings.missingConstructor with
      | ignore => exact .noConstructor hm hc hs
      | error => exact .error hm hc hs

/-- **What promotion makes of one class, in full.**  The class that is left and the result that is reported are those of
`Promotes`, and no others.  If the result is an error, its text names the class as the table does. -/
theorem promotes_iff_promote_eq (h : ∀ y ∈ Node.namesIn d.nodes, t.Knows y) :
    (∀ d' result, d.Promotes t s d' result ↔
      (d.promote (s.rules t)).1 = d' ∧ (d.promote (s.rules t)).2.result = result) ∧
    ∀ e, (d.promote (s.rules t)).2.result = .error e →
      ∃ n, t.resolve d.name.name = .ok n ∧ e.mapNames t.resolve = .ok ⟨n, d.span⟩ := by
  refine ⟨fun d' result => ⟨fun hp => ?_, ?_⟩, fun e he => ?_⟩
  · obtain ⟨hd, hr⟩ := hp.eq
    exact ⟨hd.symm, hr.symm⟩
  · rintro ⟨rfl, rfl⟩
    exact d.promotes_promote t s
  · have hp := d.promotes_promote t s
    rw [he] at hp
    generalize (d.promote (s.rules t)).1 = d' at hp
    obtain ⟨n, hn⟩ := h d.name.name (List.mem_flatMap.2 ⟨_, d.ident_name_mem_nodes, List.mem_singleton_self _⟩)
    refine ⟨n, hn, ?_⟩
    cases hp with
    | error => exact bind_eq_ok_iff.2 ⟨n, hn, rfl⟩

/-- A class with its marker given twice and once more as a call, two constructors, and two calls of the base in the
first; of the parameters of this one, one is marked twice, one cannot be promoted and one is not marked. -/
theorem promotes_iff_promote_eq_ofMarkerNames :
    let t := NameTable.ofMarkerNames
    let id : Ident Symbol := ⟨default, default⟩
    let pp : Decorator Symbol := ⟨.ident id, default⟩
    let marker : Decorator Symbol := ⟨.ident ⟨⟨2, by decide⟩, default⟩, default⟩
    let called : Decorator Symbol := ⟨.call marker.expr [] default, default⟩
    let base : Stmt Symbol := .expr (.call (.super default) [] default) default
    let field : Member Symbol := .field [pp] id none false default
    let rest : List (Param Symbol) := [⟨[pp], .rest (.ident id) default, none, default⟩, ⟨[], .ident id, none, default⟩]
    let c : Ctor Symbol :=
      ⟨⟨[pp, called, pp], .ident id, none, default⟩ :: rest, ⟨[.empty default, base, base], default⟩, default⟩
    let c' : Ctor Symbol :=
      ⟨⟨[called], .ident id, none, default⟩ :: rest, ⟨[.empty default, base, id.assignment, base], default⟩, default⟩
    let d : ClassDecl Symbol := ⟨[marker, called, marker], id, none, [field, .ctor c, .ctor c], default⟩
    (∀ y ∈ Node.namesIn d.nodes, t.Knows y) ∧
    d.Promotes t {} ⟨[called], id, none, [field, .ctor c', .ctor c], default⟩
      (.ok (.promoted ⟨default, default, [default], some 1, [⟨default, .rest, default⟩]⟩)) := by
  intro t id pp marker called base field rest c c' d
  have hk : ∀ y ∈ Node.namesIn d.nodes, t.Knows y := by
    have hn : ∀ y ∈ Node.namesIn d.nodes, y = default ∨ y = ⟨2, by decide⟩ := by decide
    intro y hy
    rcases hn y hy with rfl | rfl
    · exact ⟨paramMarkerName, rfl⟩
    · exact ⟨classMarkerName, rfl⟩
  refine ⟨hk, ((promotes_iff_promote_eq hk).1 _ _).2 ?_⟩
  rw [Settings.rules, NameTable.markers_ofMarkerNames]
  exact ⟨rfl, rfl⟩

end ClassDecl

end Promotion
