import Promotion.Proofs.Drafting
/-!
# What drafting calls make

A drafting call has hidden state: the table of names, which grows, and the span that nodes get.  Here is what it makes
without state.  `DraftCall.names` are the names a call interns, in order, and `DraftCall.make` is the value it makes of
them under a numbering of names and from a span.  `DraftM.Follows` says that an action does what such a description
says, and it is closed under sequencing, because a name keeps its number when the table grows.

So a program of calls comes down to lists (`DraftCall.follows_mapM`): the table at its end has the names of all calls in
the order in which they first came, the values made on the way are those described under the numbering of this last
table, and the span of a node is the one that was moved to last (`DraftCall.mapM_run_eq_make`).
-/
namespace Promotion

/-! ## The symbols of a table -/

namespace NameTable

variable {t t' : NameTable} {n : String} {ns : List String} {y : Symbol}

/-- The symbol of a name that is in the table. -/
def symbolOf (t : NameTable) (n : String) : Symbol := (t.find? n).getD default

theorem symbolOf_eq (h : t.resolve y = .ok n) : t.symbolOf n = y := by
  rw [symbolOf, (t.resolve_eq_ok_iff y n).1 h, Option.getD_some]

theorem resolve_symbolOf (h : t.internAll ns = some t') (hn : n ∈ ns) : t'.resolve (t'.symbolOf n) = .ok n := by
  induction ns generalizing t with
  | nil => cases hn
  | cons m ns ih =>
    obtain ⟨y, t₁, h₁, h₂⟩ := internAll_cons_eq_some_iff.1 h
    rcases List.mem_cons.1 hn with rfl | hn
    · have hy := extends_of_internAll h₂ y n (resolve_of_intern h₁)
      rwa [symbolOf_eq hy]
    · exact ih h₂ hn

/-- A name keeps its symbol when the table grows. -/
theorem symbolOf_eq_of_extends (h : t.internAll ns = some t') {t'' : NameTable} (ht : t''.Extends t') (hn : n ∈ ns) :
    t'.symbolOf n = t''.symbolOf n :=
  (symbolOf_eq (ht _ n (resolve_symbolOf h hn))).symm

end NameTable

/-! ## Actions -/

/-- The action interns `ns`, makes what `f` says under the numbering that results, and moves from a span `s` to `σ s`.
The value depends on the numbers of `ns` only. -/
def DraftM.Follows {α : Type} (ns : List String) (f : (String → Symbol) → Span → α) (σ : Span → Span) (act : DraftM α) :
    Prop :=
  (∀ d, act d = (d.table.internAll ns).map fun t => (f t.symbolOf d.span, ⟨t, σ d.span⟩)) ∧
    ∀ y y' s, (∀ n ∈ ns, y n = y' n) → f y s = f y' s

namespace DraftM.Follows

variable {α β : Type} {ns ms : List String} {f : (String → Symbol) → Span → α} {σ τ : Span → Span} {act : DraftM α}

theorem pure (a : α) : Follows [] (fun _ _ => a) id (pure a) := ⟨fun _ => rfl, fun _ _ _ _ => rfl⟩

theorem here : Follows [] (fun _ s => s) id DraftM.here := ⟨fun _ => rfl, fun _ _ _ _ => rfl⟩

theorem intern (n : String) : Follows [n] (fun y _ => y n) id (DraftM.intern n) := by
  refine ⟨fun d => ?_, fun y y' _ h => h n List.mem_cons_self⟩
  have hi : DraftM.intern n d = (d.table.intern n).bind fun r => some (r.1, { d with table := r.2 }) := rfl
  have ha : d.table.internAll [n] = (d.table.intern n).bind fun r => some r.2 := rfl
  rw [hi, ha]
  cases h : d.table.intern n with
  | none => rfl
  | some r =>
    have hy : r.2.symbolOf n = r.1 := NameTable.symbolOf_eq (NameTable.resolve_of_intern h)
    exact congrArg (fun z => some (z, (⟨r.2, d.span⟩ : Draft))) hy.symm

/-- **Actions follow one another**: the names of the first come first, and its value can be read in the later table. -/
theorem bind {k : α → DraftM β} {g : α → (String → Symbol) → Span → β} (h : Follows ns f σ act)
    (hk : ∀ a, Follows ms (g a) τ (k a)) :
    Follows (ns ++ ms) (fun y s => g (f y s) y (σ s)) (τ ∘ σ) (act >>= k) := by
  refine ⟨fun d => ?_, fun y y' s hy => ?_⟩
  · have hb : (act >>= k) d = (act d).bind fun r => k r.1 r.2 := rfl
    rw [hb, h.1, NameTable.internAll_append]
    cases hn : d.table.internAll ns with
    | none => rfl
    | some t =>
      rw [Option.map_some, Option.bind_some, Option.bind_some, (hk _).1]
      cases hm : t.internAll ms with
      | none => rfl
      | some t' =>
        -- the first value was made when the table was `t`, and is described under the numbering of `t'`
        have hf : f t.symbolOf d.span = f t'.symbolOf d.span :=
          h.2 _ _ _ fun n => NameTable.symbolOf_eq_of_extends hn (NameTable.extends_of_internAll hm)
        rw [Option.map_some, Option.map_some, hf, Function.comp_apply]
  · obtain ⟨hn, hm⟩ := List.forall_mem_append.1 hy
    have hf : f y s = f y' s := h.2 y y' s hn
    exact (congrArg (g · y (σ s)) hf).trans ((hk _).2 y y' _ hm)

theorem map (h : Follows ns f σ act) (k : α → β) :
    Follows ns (fun y s => k (f y s)) σ (act >>= fun a => Pure.pure (k a)) := by
  have hk := h.bind fun a => Follows.pure (k a)
  rwa [List.append_nil] at hk

/-- A node around the value, at the span in force. -/
theorem stamp (h : Follows ns f σ act) (k : α → Span → β) :
    Follows ns (fun y s => k (f y s) (σ s)) σ (act >>= fun a => DraftM.here >>= fun s => Pure.pure (k a s)) := by
  have hk := h.bind fun a => Follows.here.map (k a)
  rwa [List.append_nil] at hk

theorem mapM {ns : β → List String} {f : β → (String → Symbol) → Span → α} {act : β → DraftM α}
    (h : ∀ x, Follows (ns x) (f x) id (act x)) :
    ∀ xs : List β, Follows (xs.flatMap ns) (fun y s => xs.map fun x => f x y s) id (xs.mapM act)
  | [] => by
    rw [List.mapM_nil]
    exact .pure []
  | x :: xs => by
    rw [List.mapM_cons]
    exact (h x).bind fun a => (mapM h xs).map (a :: ·)

theorem mapM_names {f : String → (String → Symbol) → Span → α} {act : String → DraftM α}
    (h : ∀ n, Follows [n] (f n) id (act n)) (ns : List String) :
    Follows ns (fun y s => ns.map fun n => f n y s) id (ns.mapM act) := by
  have hm := mapM h ns
  rwa [List.flatMap_singleton'] at hm

theorem ident (n : String) : Follows [n] (fun y s => ⟨y n, s⟩) id (DraftM.ident n) := (intern n).stamp _

theorem identExpr (n : String) : Follows [n] (fun y s => .ident ⟨y n, s⟩) id (DraftM.identExpr n) := (ident n).map _

theorem decorator (n : String) : Follows [n] (fun y s => ⟨.ident ⟨y n, s⟩, s⟩) id (DraftM.decorator n) :=
  (identExpr n).stamp _

end DraftM.Follows

/-! ## Calls -/

namespace DraftCall

/-- The names that a call interns, in this order. -/
def names : DraftCall → List String
  | intern n | ident n | identExpr n | str n | member _ n | decorator n | decoratorCall n _ | param n | restPattern n
  | letDecl n _ | function n _ _ | method n _ _ | field n _ => [n]
  | decoratedParam n ds => ds ++ [n]
  | objectPattern ns => ns.flatMap fun n => [n, n]
  | arrayPattern ns => ns
  | classDecl n b _ => n :: b.toList
  | decoratedClass ds n b _ => n :: b.toList ++ ds
  | moveTo _ | int _ | this | super | call .. | assign .. | paren _ | arrow .. | paramWith .. | exprStmt _ | superCall _
  | ret _ | branch .. | block _ | exportDecl _ | ctor .. | module _ => []

section Make

variable (y : String → Symbol) (s : Span)

def newIdent (n : String) : Ident Symbol := ⟨y n, s⟩

def newDecorator (n : String) : Decorator Symbol := ⟨.ident (newIdent y s n), s⟩

/-- What a call makes if names have the symbols `y` and nodes stand at `s`: its parts as they are, and around them nodes
that all stand at `s`. -/
def make : DraftCall → Drafted Symbol
  | moveTo _ => .nothing
  | intern n => .symbol (y n)
  | ident n => .ident (newIdent y s n)
  | identExpr n => .expr (.ident (newIdent y s n))
  | int v => .expr (.int v s)
  | str v => .expr (.str (y v) s)
  | this => .expr (.this s)
  | super => .expr (.super s)
  | call c as => .expr (.call c as s)
  | member o p => .expr (.member o (newIdent y s p) false s)
  | assign l r => .expr (.assign .set l r s)
  | paren e => .expr (.paren e s)
  | arrow ps b => .expr (.arrow ⟨ps, .block ⟨b, s⟩, false, s⟩)
  | decorator n => .decorator (newDecorator y s n)
  | decoratorCall n as => .decorator ⟨.call (.ident (newIdent y s n)) as s, s⟩
  | param n => .param ⟨[], .ident (newIdent y s n), none, s⟩
  | decoratedParam n ds => .param ⟨ds.map (newDecorator y s), .ident (newIdent y s n), none, s⟩
  | paramWith p ds => .param ⟨ds, p, none, s⟩
  | restPattern n => .pattern (.rest (.ident (newIdent y s n)) s)
  | objectPattern ns => .pattern (.object (ns.map fun n => ⟨newIdent y s n, .ident (newIdent y s n), none, s⟩) none s)
  | arrayPattern ns => .pattern (.array (ns.map fun n => .item (.ident (newIdent y s n)) none) none s)
  | exprStmt e => .stmt (.expr e s)
  | superCall as => .stmt (.expr (.call (.super s) as s) s)
  | ret v => .stmt (.ret v s)
  | letDecl n i => .stmt (.var ⟨.mutable, .ident (newIdent y s n), i, s⟩)
  | branch c b => .stmt (.branch c (.block ⟨b, s⟩) none s)
  | block ss => .block ⟨ss, s⟩
  | function n ps b => .stmt (.function ⟨newIdent y s n, ps, ⟨b, s⟩, false, s⟩)
  | exportDecl d => .stmt (.exportDecl d)
  | ctor ps b => .member (.ctor ⟨ps, ⟨b, s⟩, s⟩)
  | method n ps b => .member (.method [] (newIdent y s n) ps (some ⟨b, s⟩) false false s)
  | field n i => .member (.field [] (newIdent y s n) i false s)
  | classDecl n b ms => .classDecl ⟨[], newIdent y s n, b.map fun b => .ident (newIdent y s b), ms, s⟩
  | decoratedClass ds n b ms =>
    .classDecl ⟨ds.map (newDecorator y s), newIdent y s n, b.map fun b => .ident (newIdent y s b), ms, s⟩
  | module ss => .module ⟨ss, s⟩

end Make

/-- The span in force after a call. -/
def spanAfter (s : Span) : DraftCall → Span
  | moveTo s' => s'
  | _ => s

open DraftM

theorem follows_classDecl (n : String) (b : Option String) (ms : List (Member Symbol)) :
    Follows (n :: b.toList)
      (fun y s => ⟨[], newIdent y s n, b.map fun b => .ident (newIdent y s b), ms, s⟩) id
      (DraftM.classDecl n b ms) := by
  cases b with
  | none => exact (Follows.ident n).bind fun _ => (Follows.pure none).stamp _
  | some b => exact (Follows.ident n).bind fun _ => ((Follows.identExpr b).map some).stamp _

/-- **A call does what its description says.** -/
theorem follows (c : DraftCall) : Follows c.names (c.make · ·) (c.spanAfter ·) c.run := by
  cases c with
  | intern n => exact (Follows.intern n).map _
  | ident n => exact (Follows.ident n).map _
  | identExpr n => exact (Follows.identExpr n).map _
  | str v => exact ((Follows.intern v).stamp _).map _
  | member o p => exact ((Follows.ident p).stamp _).map _
  | decorator n => exact (Follows.decorator n).map _
  | decoratorCall n as => exact ((Follows.identExpr n).bind fun _ => (Follows.here.map _).stamp _).map _
  | param n => exact ((Follows.ident n).stamp _).map _
  | restPattern n => exact ((Follows.ident n).stamp _).map _
  | letDecl n i => exact ((Follows.ident n).stamp _).map _
  | field n i => exact ((Follows.ident n).stamp _).map _
  | function n ps b => exact ((Follows.ident n).bind fun _ => (Follows.here.map _).stamp _).map _
  | method n ps b => exact ((Follows.ident n).bind fun _ => (Follows.here.map _).stamp _).map _
  | decoratedParam n ds =>
    exact ((Follows.mapM_names .decorator ds).bind fun _ => (Follows.ident n).stamp _).map _
  | objectPattern ns =>
    have hp (n : String) : Follows _ _ id (DraftM.propertyPattern n) :=
      (Follows.ident n).bind fun _ => (Follows.ident n).stamp _
    exact ((Follows.mapM hp ns).stamp _).map _
  | arrayPattern ns =>
    have hs (n : String) : Follows _ _ id (DraftM.slot n) := (Follows.ident n).map _
    exact ((Follows.mapM_names hs ns).stamp _).map _
  | classDecl n b ms => exact (follows_classDecl n b ms).map _
  | decoratedClass ds n b ms =>
    exact ((follows_classDecl n b ms).bind fun _ => (Follows.mapM_names .decorator ds).map _).map _
  | _ =>
    -- what is left interns nothing
    exact ⟨fun _ => rfl, fun _ _ _ _ => rfl⟩

/-! ## Programs -/

/-- What the calls of a program make from a span on. -/
def makeAll (y : String → Symbol) : Span → List DraftCall → List (Drafted Symbol)
  | _, [] => []
  | s, c :: cs => c.make y s :: makeAll y (c.spanAfter s) cs

theorem length_makeAll (y : String → Symbol) (s : Span) (cs : List DraftCall) :
    (makeAll y s cs).length = cs.length := by
  induction cs generalizing s with
  | nil => rfl
  | cons c cs ih => rw [makeAll, List.length_cons, ih, List.length_cons]

theorem getElem?_makeAll (y : String → Symbol) (s : Span) (pre : List DraftCall) (c : DraftCall)
    (post : List DraftCall) :
    (makeAll y s (pre ++ c :: post))[pre.length]? = some (c.make y (pre.foldl spanAfter s)) := by
  induction pre generalizing s with
  | nil => rfl
  | cons b pre ih => exact ih (b.spanAfter s)

/-- **A program of calls follows the descriptions of its calls**, one after the other. -/
theorem follows_mapM : ∀ cs : List DraftCall,
    Follows (cs.flatMap names) (fun y s => makeAll y s cs) (fun s => cs.foldl spanAfter s) (cs.mapM run)
  | [] => by
    rw [List.mapM_nil]
    exact .pure []
  | c :: cs => by
    rw [List.mapM_cons]
    exact c.follows.bind fun x => (follows_mapM cs).map (x :: ·)

/-- If the symbols of the parts of all calls are known or stand in values that calls before them made, then in the end
the symbols of all values are known. -/
theorem knows_of_mapM {cs : List DraftCall} {xs : List (Drafted Symbol)} {d d' : Draft}
    (h : cs.mapM run d = some (xs, d'))
    (hp : ∀ pre c post, cs = pre ++ c :: post → ∀ v ∈ c.parts, ∀ z ∈ v.names,
      d.table.Knows z ∨ ∃ x ∈ xs.take pre.length, z ∈ x.names) :
    (∀ z, d.table.Knows z → d'.table.Knows z) ∧ ∀ x ∈ xs, ∀ z ∈ x.names, d'.table.Knows z := by
  induction cs generalizing d xs with
  | nil =>
    rw [List.mapM_nil] at h
    obtain ⟨rfl, rfl⟩ := Prod.mk.inj (Option.some.inj h)
    exact ⟨fun _ hz => hz, nofun⟩
  | cons c cs ih =>
    rw [List.mapM_cons] at h
    obtain ⟨x, d₁, hx, h⟩ := bind_eq_some_iff.1 h
    obtain ⟨xs, d₂, hxs, h⟩ := bind_eq_some_iff.1 h
    obtain ⟨rfl, rfl⟩ := Prod.mk.inj (Option.some.inj h)
    obtain ⟨hk, hn⟩ := c.makes d x d₁ hx
    have hx₁ : ∀ z ∈ x.names, d₁.table.Knows z := by
      intro z hz
      rcases hn z hz with h | h
      · obtain ⟨v, hv, hz⟩ := List.mem_flatMap.1 h
        exact hk z ((hp [] c cs rfl v hv z hz).resolve_right nofun)
      · exact h
    obtain ⟨hk₂, hn₂⟩ := ih hxs fun pre b post hb v hv z hz => by
      rcases hp (c :: pre) b post (congrArg (c :: ·) hb) v hv z hz with h | ⟨x', hx', hz'⟩
      · exact .inl (hk z h)
      · rcases List.mem_cons.1 hx' with rfl | hx'
        · exact .inl (hx₁ z hz')
        · exact .inr ⟨x', hx', hz'⟩
    exact ⟨fun z hz => hk₂ z (hk z hz), List.forall_mem_cons.2 ⟨fun z hz => hk₂ z (hx₁ z hz), hn₂⟩⟩

theorem run_mapM (cs : List DraftCall) :
    (cs.mapM run).run {} = (NameTable.empty.internAll (cs.flatMap names)).map fun t =>
      (makeAll t.symbolOf .synthetic cs, ⟨t, cs.foldl spanAfter .synthetic⟩) :=
  (follows_mapM cs).1 {}

theorem exists_run_mapM_iff (cs : List DraftCall) :
    (∃ r, (cs.mapM run).run {} = some r) ↔ (cs.flatMap names).eraseDups.length < UInt32.size := by
  have hi : (∃ t, NameTable.empty.internAll (cs.flatMap names) = some t) ↔
      ([] ++ cs.flatMap names).eraseDups.length < UInt32.size := NameTable.exists_internAll_iff rfl
  rw [run_mapM, ← List.nil_append (cs.flatMap names), ← hi]
  constructor
  · rintro ⟨r, h⟩
    obtain ⟨t, ht, -⟩ := Option.map_eq_some_iff.1 h
    exact ⟨t, ht⟩
  · rintro ⟨t, ht⟩
    exact ⟨_, congrArg (Option.map _) ht⟩

/-- **A program of drafting calls and its table agree.**  The program fails only for want of numbers.  Its table has the
names of its calls, each once, in the order in which they are first interned.  There is one symbol for each name, which
stands for it in this last table, such that every call has made what it describes, with the symbols of its names and at
the span that was moved to last before it.  If the parts of the calls were put together of what calls before them made,
then every symbol of every value is one of these. -/
theorem mapM_run_eq_make (cs : List DraftCall) :
    ((∃ r, (cs.mapM run).run {} = some r) ↔ (cs.flatMap names).eraseDups.length < UInt32.size) ∧
    ∀ xs d, (cs.mapM run).run {} = some (xs, d) →
      d.table.names.toList = (cs.flatMap names).eraseDups ∧
      ∃ y : String → Symbol, (∀ n ∈ cs.flatMap names, d.table.resolve (y n) = .ok n) ∧
        xs.length = cs.length ∧
        (∀ pre c post, cs = pre ++ c :: post → xs[pre.length]? = some (c.make y (pre.foldl spanAfter .synthetic))) ∧
        ((∀ pre c post, cs = pre ++ c :: post → ∀ v ∈ c.parts, ∀ z ∈ v.names, ∃ x ∈ xs.take pre.length, z ∈ x.names) →
          ∀ x ∈ xs, ∀ z ∈ x.names, ∃ n ∈ cs.flatMap names, z = y n) := by
  refine ⟨exists_run_mapM_iff cs, fun xs d h => ?_⟩
  have hr := h
  rw [run_mapM, Option.map_eq_some_iff] at h
  obtain ⟨t, ht, h⟩ := h
  obtain ⟨rfl, rfl⟩ := Prod.mk.inj h
  have hn : t.names.toList = ([] ++ cs.flatMap names).eraseDups := NameTable.names_internAll rfl ht
  refine ⟨hn, t.symbolOf, fun n => NameTable.resolve_symbolOf ht, length_makeAll _ _ cs, ?_, fun hp x hx z hz => ?_⟩
  · rintro pre c post rfl
    exact getElem?_makeAll _ _ pre c post
  · -- a symbol that the table knows stands for one of its names, and these are the names of the calls
    have hk := (knows_of_mapM hr fun pre c post hc v hv z hz => .inr (hp pre c post hc v hv z hz)).2
    obtain ⟨n, hz⟩ := hk x hx z hz
    have hm : n ∈ t.names.toList := NameTable.mem_names_iff.2 ⟨z, (t.resolve_eq_ok_iff z n).1 hz⟩
    rw [hn, List.mem_eraseDups, List.nil_append] at hm
    exact ⟨n, hm, (NameTable.symbolOf_eq hz).symm⟩

/-- The name of a class comes before its base and its decorators, and all its nodes stand where the session was moved
to. -/
theorem mapM_run_eq_make_decoratedClass :
    let s : Span := ⟨5, 9, 2, 3⟩
    let cs : List DraftCall := [.moveTo s, .decoratedClass ["D", "B"] "C" (some "B") [], .objectPattern ["E", "C"]]
    ∃ xs d, (cs.mapM run).run {} = some (xs, d) ∧ d.table.names.toList = ["C", "B", "D", "E"] ∧
      ∃ y : String → Symbol, (∀ n ∈ ["C", "B", "D", "E"], d.table.resolve (y n) = .ok n) ∧
        xs[1]? = some (.classDecl
          ⟨[⟨.ident ⟨y "D", s⟩, s⟩, ⟨.ident ⟨y "B", s⟩, s⟩], ⟨y "C", s⟩, some (.ident ⟨y "B", s⟩), [], s⟩) := by
  intro s cs
  obtain ⟨hi, hr⟩ := mapM_run_eq_make cs
  obtain ⟨⟨xs, d⟩, h⟩ := hi.2 (by decide)
  obtain ⟨hn, y, hy, -, hx, -⟩ := hr xs d h
  have he : (cs.flatMap names).eraseDups = ["C", "B", "D", "E"] := by decide
  refine ⟨xs, d, h, hn.trans he, y, fun n hm => hy n ?_, hx [.moveTo s] _ _ rfl⟩
  rwa [← he, List.mem_eraseDups] at hm

end DraftCall

end Promotion
