import Promotion.Proofs.Provenance
import Promotion.Tree.Recipe
/-!
# Drafted trees can be named

A drafting session is a sequence of calls, each of which takes for its parts values that earlier calls made (`Drafts`).
Values may be used more than once or not at all, spans may be moved and names interned at any time, and trees may be put
together by hand out of names that are at hand.  Running a recipe is one way to go through a session
(`Recipe.exists_drafts`).

Interning a name keeps the names interned before, so each call leaves a table that knows the names of what was made, and
at the end of a session the table knows all of them (`Drafts.knows`).  A drafted module can therefore be named in the
table of its session, and so can everything that runs make of it and report on it.
-/
namespace Promotion

/-! ## What an action makes -/

/-- The names of what `act` makes are among `ys`, or known in the table that it leaves; and this table knows what the
table before it knew. -/
def DraftM.Makes {α : Type} (names : α → List Symbol) (ys : List Symbol) (act : DraftM α) : Prop :=
  ∀ d a d', act d = some (a, d') →
    (∀ y, d.table.Knows y → d'.table.Knows y) ∧ ∀ y ∈ names a, y ∈ ys ∨ d'.table.Knows y

namespace DraftM

theorem bind_eq_some_iff {α β : Type} {x : DraftM α} {k : α → DraftM β} {d : Draft} {b : β × Draft} :
    (x >>= k) d = some b ↔ ∃ a d', x d = some (a, d') ∧ k a d' = some b := by
  have h : (x >>= k) d = (x d).bind fun r => k r.1 r.2 := rfl
  rw [h, Option.bind_eq_some_iff]
  exact ⟨fun ⟨r, hx, hk⟩ => ⟨r.1, r.2, hx, hk⟩, fun ⟨a, d', hx, hk⟩ => ⟨(a, d'), hx, hk⟩⟩

theorem run_intern {n : String} {d : Draft} {y : Symbol} {t : NameTable} (h : d.table.intern n = some (y, t)) :
    (DraftM.intern n).run d = some (y, { d with table := t }) := by
  have hi : (DraftM.intern n).run d = (d.table.intern n).bind fun r => some (r.1, { d with table := r.2 }) := rfl
  rw [hi, h]
  rfl

namespace Makes

variable {α β : Type} {names : α → List Symbol} {names' : β → List Symbol} {ys : List Symbol}

theorem pure {a : α} (h : ∀ y ∈ names a, y ∈ ys) : Makes names ys (pure a) := by
  rintro d _ _ ⟨⟩
  exact ⟨fun _ h => h, fun y hy => .inl (h y hy)⟩

theorem bind {x : DraftM α} {k : α → DraftM β} (hx : Makes names ys x)
    (hk : ∀ a, Makes names' (names a ++ ys) (k a)) : Makes names' ys (x >>= k) := by
  intro d b d'' h
  obtain ⟨a, d', ha, hb⟩ := bind_eq_some_iff.1 h
  obtain ⟨hd, hn⟩ := hx d a d' ha
  obtain ⟨hd', hn'⟩ := hk a d' b d'' hb
  refine ⟨fun y hy => hd' y (hd y hy), fun y hy => ?_⟩
  rcases hn' y hy with h | h
  · rcases List.mem_append.1 h with h | h
    · exact (hn y h).imp_right (hd' y)
    · exact .inl h
  · exact .inr h

theorem here : Makes (fun _ => []) ys DraftM.here := by
  rintro d _ _ ⟨⟩
  exact ⟨fun _ h => h, nofun⟩

theorem moveTo (s : Span) : Makes (fun _ => []) ys (DraftM.moveTo s) := by
  rintro d _ _ ⟨⟩
  exact ⟨fun _ h => h, nofun⟩

theorem intern (n : String) : Makes (fun y => [y]) ys (DraftM.intern n) := by
  intro d y d' h
  obtain ⟨⟨z, t⟩, ht, h⟩ := Option.bind_eq_some_iff.1 h
  obtain ⟨rfl, rfl⟩ := Prod.mk.inj (Option.some.inj h)
  exact ⟨fun _ hy => hy.of_intern ht, List.forall_mem_singleton.2 (.inr (NameTable.knows_of_intern ht))⟩

theorem mapM {f : β → DraftM α} (hf : ∀ x ys, Makes names ys (f x)) :
    ∀ (xs : List β) (ys : List Symbol), Makes (List.flatMap names) ys (xs.mapM f)
  | [], ys => by
    rw [List.mapM_nil]
    exact .pure nofun
  | x :: xs, ys => by
    rw [List.mapM_cons]
    refine .bind (hf x ys) fun a => .bind (mapM hf xs _) fun as => .pure ?_
    simp only [List.flatMap_cons, List.mem_append]
    tauto

end Makes

end DraftM

/-! ## Calls -/

/-- A call that drafts a value, with its parts ready made. -/
inductive DraftCall where
  | moveTo (span : Span)
  | intern (name : String)
  | ident (name : String)
  | identExpr (name : String)
  | int (value : Int64)
  | str (value : String)
  | this
  | super
  | call (callee : Expr Symbol) (arguments : List (Expr Symbol))
  | member (object : Expr Symbol) (property : String)
  | assign (left right : Expr Symbol)
  | paren (inner : Expr Symbol)
  | arrow (params : List (Param Symbol)) (body : List (Stmt Symbol))
  | decorator (name : String)
  | decoratorCall (name : String) (arguments : List (Expr Symbol))
  | param (name : String)
  | decoratedParam (name : String) (decorators : List String)
  | paramWith (pattern : Pattern Symbol) (decorators : List (Decorator Symbol))
  | restPattern (name : String)
  | objectPattern (names : List String)
  | arrayPattern (names : List String)
  | exprStmt (value : Expr Symbol)
  | superCall (arguments : List (Expr Symbol))
  | ret (value : Option (Expr Symbol))
  | letDecl (name : String) (initializer : Option (Expr Symbol))
  | branch (condition : Expr Symbol) (body : List (Stmt Symbol))
  | block (statements : List (Stmt Symbol))
  | function (name : String) (params : List (Param Symbol)) (body : List (Stmt Symbol))
  | exportDecl (decl : Stmt Symbol)
  | ctor (params : List (Param Symbol)) (body : List (Stmt Symbol))
  | method (name : String) (params : List (Param Symbol)) (body : List (Stmt Symbol))
  | field (name : String) (initializer : Option (Expr Symbol))
  | classDecl (name : String) (base : Option String) (members : List (Member Symbol))
  | decoratedClass (decorators : List String) (name : String) (base : Option String) (members : List (Member Symbol))
  | module (statements : List (Stmt Symbol))

namespace DraftCall

def run : DraftCall → DraftM (Drafted Symbol)
  | moveTo s => do .moveTo s; return .nothing
  | intern n => do return .symbol (← .intern n)
  | ident n => do return .ident (← .ident n)
  | identExpr n => do return .expr (← .identExpr n)
  | int v => do return .expr (← .int v)
  | str v => do return .expr (← .str v)
  | this => do return .expr (← .this)
  | super => do return .expr (← .super)
  | call c as => do return .expr (← .call c as)
  | member o p => do return .expr (← .member o p)
  | assign l r => do return .expr (← .assign l r)
  | paren e => do return .expr (← .paren e)
  | arrow ps b => do return .expr (← .arrow ps b)
  | decorator n => do return .decorator (← .decorator n)
  | decoratorCall n as => do return .decorator (← .decoratorCall n as)
  | param n => do return .param (← .param n)
  | decoratedParam n ds => do return .param (← .decoratedParam n ds)
  | paramWith p ds => do return .param (← .paramWith p ds)
  | restPattern n => do return .pattern (← .restPattern n)
  | objectPattern ns => do return .pattern (← .objectPattern ns)
  | arrayPattern ns => do return .pattern (← .arrayPattern ns)
  | exprStmt e => do return .stmt (← .exprStmt e)
  | superCall as => do return .stmt (← .superCall as)
  | ret v => do return .stmt (← .ret v)
  | letDecl n i => do return .stmt (← .letDecl n i)
  | branch c b => do return .stmt (← .branch c b)
  | block ss => do return .block (← .block ss)
  | function n ps b => do return .stmt (← .function n ps b)
  | exportDecl d => return .stmt (.exportDecl d)
  | ctor ps b => do return .member (← .ctor ps b)
  | method n ps b => do return .member (← .method n ps b)
  | field n i => do return .member (← .field n i)
  | classDecl n b ms => do return .classDecl (← .classDecl n b ms)
  | decoratedClass ds n b ms => do return .classDecl (← .decoratedClass ds n b ms)
  | module ss => do return .module (← .module ss)

/-- The values that a call takes for its parts. -/
def parts : DraftCall → List (Drafted Symbol)
  | call c as => .expr c :: as.map .expr
  | member o _ => [.expr o]
  | assign l r => [.expr l, .expr r]
  | paren e => [.expr e]
  | arrow ps b => ps.map .param ++ b.map .stmt
  | decoratorCall _ as => as.map .expr
  | paramWith p ds => .pattern p :: ds.map .decorator
  | exprStmt e => [.expr e]
  | superCall as => as.map .expr
  | ret v => v.toList.map .expr
  | letDecl _ i => i.toList.map .expr
  | branch c b => .expr c :: b.map .stmt
  | block ss => ss.map .stmt
  | function _ ps b => ps.map .param ++ b.map .stmt
  | exportDecl d => [.stmt d]
  | ctor ps b => ps.map .param ++ b.map .stmt
  | method _ ps b => ps.map .param ++ b.map .stmt
  | field _ i => i.toList.map .expr
  | classDecl _ _ ms => ms.map .member
  | decoratedClass _ _ _ ms => ms.map .member
  | module ss => ss.map .stmt
  | moveTo _ | intern _ | ident _ | identExpr _ | int _ | str _ | this | super | decorator _ | param _
  | decoratedParam .. | restPattern _ | objectPattern _ | arrayPattern _ => []

end DraftCall

/-- The names of a list of nodes. -/
def Node.namesIn {ν : Type} (ns : List (Node ν)) : List ν := ns.flatMap Node.names

/-- The names of a drafted value. -/
def Drafted.names : Drafted Symbol → List Symbol
  | .nothing => []
  | .symbol y => [y]
  | .ident id => [id.name]
  | .expr e => Node.namesIn e.nodes
  | .decorator e => Node.namesIn e.nodes
  | .pattern p => Node.namesIn p.nodes
  | .param x => Node.namesIn x.nodes
  | .stmt x => Node.namesIn x.nodes
  | .block b => Node.namesIn b.nodes
  | .member x => Node.namesIn x.nodes
  | .classDecl d => Node.namesIn d.nodes
  | .module p => Node.namesIn p.nodes

section Calls

open DraftM

variable {ys : List Symbol}

namespace Node

variable {ν : Type}

theorem namesIn_nil : namesIn ([] : List (Node ν)) = [] := rfl

theorem namesIn_cons (n : Node ν) (ns : List (Node ν)) : namesIn (n :: ns) = n.names ++ namesIn ns := rfl

theorem namesIn_append (ns ns' : List (Node ν)) : namesIn (ns ++ ns') = namesIn ns ++ namesIn ns' :=
  List.flatMap_append

theorem namesIn_flatMap {α : Type} (xs : List α) (f : α → List (Node ν)) :
    namesIn (xs.flatMap f) = xs.flatMap fun x => namesIn (f x) :=
  List.flatMap_assoc

end Node

attribute [local simp] Node.namesIn_nil Node.namesIn_cons Node.namesIn_append Node.namesIn_flatMap Node.names
  Drafted.names DraftCall.parts

attribute [local simp] Expr.nodes Arrow.nodes ArrowBody.nodes Pattern.nodes Pattern.nodesOpt Slot.nodes
  PropertyPattern.nodes Param.nodes Decorator.nodes Block.nodes Block.nodesOpt VarDecl.nodes FunctionDecl.nodes
  ClassDecl.nodes ClassDecl.inside Member.nodes Ctor.nodes Stmt.nodes Stmt.nodesOpt Module.nodes

attribute [local simp] Expr.nodesAll_eq Expr.nodesOpt_eq Slot.nodesAll_eq PropertyPattern.nodesAll_eq Param.nodesAll_eq
  Decorator.nodesAll_eq Member.nodesAll_eq Stmt.nodesAll_eq

theorem DraftM.Makes.ident (n : String) : Makes (fun id => [id.name]) ys (DraftM.ident n) :=
  .bind (.intern n) fun _ => .bind .here fun _ => .pure (by simp)

theorem DraftM.Makes.identExpr (n : String) : Makes (fun e => Node.namesIn e.nodes) ys (DraftM.identExpr n) :=
  .bind (.ident n) fun _ => .pure (by simp)

theorem DraftM.Makes.decorator (n : String) : Makes (fun e => Node.namesIn e.nodes) ys (DraftM.decorator n) :=
  .bind (.identExpr n) fun _ => .bind .here fun _ => .pure (by simp +contextual)

theorem DraftM.Makes.propertyPattern (n : String) :
    Makes (fun p => Node.namesIn p.nodes) ys (DraftM.propertyPattern n) :=
  .bind (.ident n) fun _ => .bind (.ident n) fun _ => .bind .here fun _ => .pure (by simp)

theorem DraftM.Makes.slot (n : String) : Makes (fun p => Node.namesIn p.nodes) ys (DraftM.slot n) :=
  .bind (.ident n) fun _ => .pure (by simp)

theorem DraftM.Makes.classDecl (n : String) (b : Option String) (ms : List (Member Symbol)) :
    Makes (fun d => Node.namesIn d.nodes) (ms.flatMap fun x => Node.namesIn x.nodes) (DraftM.classDecl n b ms) := by
  refine .bind (.ident n) fun id => ?_
  cases b with
  | none =>
    rw [Option.mapM_none, pure_bind]
    exact .bind .here fun _ => .pure (by simp)
  | some b =>
    rw [Option.mapM_some, bind_map_left]
    exact .bind (.identExpr b) fun _ => .bind .here fun _ => .pure (by simp +contextual [or_imp])

/-- **A call makes values of the names of its parts and of names that it interns.** -/
theorem DraftCall.makes (c : DraftCall) : Makes Drafted.names (c.parts.flatMap Drafted.names) c.run := by
  cases c with
  | moveTo s => exact .bind (.moveTo s) fun _ => .pure nofun
  | exportDecl d => exact .pure (by simp)
  | objectPattern ns =>
    simp only [run, DraftM.objectPattern, bind_assoc, pure_bind]
    exact .bind (.mapM (fun n _ => .propertyPattern n) ns _) fun _ => .bind .here fun _ => .pure (by simp)
  | arrayPattern ns =>
    simp only [run, DraftM.arrayPattern, bind_assoc, pure_bind]
    exact .bind (.mapM (fun n _ => .slot n) ns _) fun _ => .bind .here fun _ => .pure (by simp)
  | decoratedParam n es =>
    simp only [run, DraftM.decoratedParam, DraftM.paramWith, bind_assoc, pure_bind]
    exact .bind (.mapM (fun e _ => .decorator e) es _) fun _ => .bind (.ident n) fun _ => .bind .here fun _ =>
      .pure (by simp +contextual [or_imp])
  | classDecl n b ms =>
    simp only [run, parts, List.flatMap_map]
    exact .bind (.classDecl n b ms) fun _ => .pure (by simp +contextual)
  | decoratedClass es n b ms =>
    simp only [run, DraftM.decoratedClass, parts, List.flatMap_map, bind_assoc, pure_bind]
    exact .bind (.classDecl n b ms) fun d => .bind (.mapM (fun e _ => .decorator e) es _) fun _ => .pure (by
      cases d
      simp +contextual [or_imp])
  | _ =>
    -- what is left asks for some names and spans and puts the node together
    simp only [run, DraftM.ident, DraftM.identExpr, DraftM.int, DraftM.str, DraftM.this, DraftM.super, DraftM.call,
      DraftM.member, DraftM.assign, DraftM.paren, DraftM.block, DraftM.arrow, DraftM.decorator, DraftM.decoratorCall,
      DraftM.paramWith, DraftM.param, DraftM.restPattern, DraftM.exprStmt, DraftM.superCall, DraftM.ret,
      DraftM.letDecl, DraftM.branch, DraftM.function, DraftM.ctor, DraftM.method, DraftM.field, DraftM.module,
      bind_assoc, pure_bind]
    repeat first
      | refine .bind .here fun _ => ?_
      | refine .bind (.intern _) fun _ => ?_
      | exact .pure (by simp +contextual [or_imp])

end Calls

/-! ## Sessions -/

/-- The values that a drafting session has made, the last one first, and where it has come to. -/
inductive Drafts : List (Drafted Symbol) → Draft → Prop where
  | start : Drafts [] {}
  | call {made : List (Drafted Symbol)} {d d' : Draft} {x : Drafted Symbol} (c : DraftCall) :
    Drafts made d → (∀ v ∈ c.parts, v ∈ made) → c.run d = some (x, d') → Drafts (x :: made) d'
  /-- A value put together by hand, of names at hand. -/
  | assemble {made : List (Drafted Symbol)} {d : Draft} (x : Drafted Symbol) :
    Drafts made d → (∀ y ∈ x.names, ∃ v ∈ made, y ∈ v.names) → Drafts (x :: made) d

/-- **The table of a session knows the names of all that the session has made.** -/
theorem Drafts.knows {made : List (Drafted Symbol)} {d : Draft} (h : Drafts made d) :
    ∀ v ∈ made, ∀ y ∈ v.names, d.table.Knows y := by
  induction h with
  | start => nofun
  | call c _ hp hr ih =>
    obtain ⟨hk, hn⟩ := c.makes _ _ _ hr
    refine List.forall_mem_cons.2 ⟨fun y hy => ?_, fun v hv y hy => hk y (ih v hv y hy)⟩
    rcases hn y hy with h | h
    · obtain ⟨v, hv, hy⟩ := List.mem_flatMap.1 h
      exact hk y (ih v (hp v hv) y hy)
    · exact h
  | assemble x _ hx ih =>
    refine List.forall_mem_cons.2 ⟨fun y hy => ?_, ih⟩
    obtain ⟨v, hv, hy⟩ := hx y hy
    exact ih v hv y hy

/-! ## Recipes -/

/-- Running `act` goes on with a session: if the values `vs` are at hand, then what it makes is at hand afterwards. -/
def DraftM.Continues {α : Type} (wrap : α → List (Drafted Symbol)) (vs : List (Drafted Symbol)) (act : DraftM α) :
    Prop :=
  ∀ made d, Drafts made d → (∀ v ∈ vs, v ∈ made) → ∀ a d', act d = some (a, d') →
    ∃ made', Drafts made' d' ∧ (∀ v ∈ made, v ∈ made') ∧ ∀ v ∈ wrap a, v ∈ made'

namespace DraftM.Continues

variable {α β : Type} {wrap : α → List (Drafted Symbol)} {wrap' : β → List (Drafted Symbol)}
  {vs : List (Drafted Symbol)}

theorem pure {a : α} (h : ∀ v ∈ wrap a, v ∈ vs) : Continues wrap vs (pure a) := by
  rintro made d hd hv _ _ ⟨⟩
  exact ⟨made, hd, fun _ h => h, fun v hw => hv v (h v hw)⟩

theorem bind {x : DraftM α} {k : α → DraftM β} (hx : Continues wrap vs x)
    (hk : ∀ a, Continues wrap' (wrap a ++ vs) (k a)) : Continues wrap' vs (x >>= k) := by
  intro made d hd hv b d'' h
  obtain ⟨a, d', ha, hb⟩ := bind_eq_some_iff.1 h
  obtain ⟨made', hd', hm, hw⟩ := hx made d hd hv a d' ha
  have hv' : ∀ v ∈ wrap a ++ vs, v ∈ made' :=
    List.forall_mem_append.2 ⟨hw, fun v h => hm v (hv v h)⟩
  obtain ⟨made'', hd'', hm', hw'⟩ := hk a made' d' hd' hv' b d'' hb
  exact ⟨made'', hd'', fun v h => hm' v (hm v h), hw'⟩

/-- What a call makes, under the kind of value that it is. -/
theorem call {act : DraftM α} {k : α → Drafted Symbol} (c : DraftCall) (hr : c.run = act >>= fun a => Pure.pure (k a))
    (hp : ∀ v ∈ c.parts, v ∈ vs) : Continues (fun a => [k a]) vs act := by
  intro made d hd hv a d' h
  have hc : c.run d = some (k a, d') := by
    rw [hr, bind_eq_some_iff]
    exact ⟨a, d', h, rfl⟩
  exact ⟨_, hd.call c (fun v h => hv v (hp v h)) hc, fun v => List.mem_cons_of_mem _,
    List.forall_mem_singleton.2 List.mem_cons_self⟩

/-- A value of the same names as one at hand. -/
theorem rewrap {x y : Drafted Symbol} (hx : x ∈ vs) (hn : ∀ z ∈ y.names, z ∈ x.names) {a : α} (ha : wrap a = [y]) :
    Continues wrap vs (Pure.pure a) := by
  rintro made d hd hv _ _ ⟨⟩
  refine ⟨_, hd.assemble y fun z hz => ⟨x, hv x hx, hn z hz⟩, fun v => List.mem_cons_of_mem _, ?_⟩
  rw [ha]
  exact List.forall_mem_singleton.2 List.mem_cons_self

end DraftM.Continues

section Recipes

open DraftM

attribute [local simp] DraftCall.parts or_imp

mutual

theorem ExprRecipe.continues : ∀ (r : ExprRecipe) {vs : List (Drafted Symbol)}, Continues (fun e => [.expr e]) vs r.run
  | .at s r => .bind (.call (.moveTo s) rfl nofun) fun _ => r.continues
  | .ident n => .call (.identExpr n) rfl nofun
  | .int v => .call (.int v) rfl nofun
  | .str v => .call (.str v) rfl nofun
  | .this => .call .this rfl nofun
  | .super => .call .super rfl nofun
  | .call c as => .bind c.continues fun _ => .bind (ExprRecipe.continuesAll as) fun _ =>
    .call (.call _ _) rfl (by simp +contextual)
  | .member o p => .bind o.continues fun _ => .call (.member _ p) rfl (by simp)
  | .assign l r => .bind l.continues fun _ => .bind r.continues fun _ =>
    .call (.assign _ _) rfl (by simp +contextual)
  | .paren e => .bind e.continues fun _ => .call (.paren _) rfl (by simp)
  | .arrow ps b => .bind (ParamRecipe.continuesAll ps) fun _ => .bind (StmtRecipe.continuesAll b) fun _ =>
    .call (.arrow _ _) rfl (by simp +contextual)

theorem ExprRecipe.continuesAll : ∀ (rs : List ExprRecipe) {vs : List (Drafted Symbol)},
    Continues (List.map .expr) vs (ExprRecipe.runAll rs)
  | [] => .pure nofun
  | r :: rs => .bind r.continues fun _ => .bind (ExprRecipe.continuesAll rs) fun _ =>
    .pure (by simp +contextual)

theorem ExprRecipe.continuesOpt : ∀ (r : Option ExprRecipe) {vs : List (Drafted Symbol)},
    Continues (fun e => e.toList.map .expr) vs (ExprRecipe.runOpt r)
  | none => .pure nofun
  | some r => .bind r.continues fun _ => .pure (by simp)

theorem DecoratorRecipe.continues : ∀ (r : DecoratorRecipe) {vs : List (Drafted Symbol)},
    Continues (fun e => [.decorator e]) vs r.run
  | .at s r => .bind (.call (.moveTo s) rfl nofun) fun _ => r.continues
  | .name n => .call (.decorator n) rfl nofun
  | .call n as => .bind (ExprRecipe.continuesAll as) fun _ =>
    .call (.decoratorCall n _) rfl (by simp +contextual)

theorem DecoratorRecipe.continuesAll : ∀ (rs : List DecoratorRecipe) {vs : List (Drafted Symbol)},
    Continues (List.map .decorator) vs (DecoratorRecipe.runAll rs)
  | [] => .pure nofun
  | r :: rs => .bind r.continues fun _ => .bind (DecoratorRecipe.continuesAll rs) fun _ =>
    .pure (by simp +contextual)

theorem PatternRecipe.continues : ∀ (r : PatternRecipe) {vs : List (Drafted Symbol)},
    Continues (fun p => [.pattern p]) vs r.run
  | .at s r => .bind (.call (.moveTo s) rfl nofun) fun _ => r.continues
  | .rest n => .call (.restPattern n) rfl nofun
  | .object ns => .call (.objectPattern ns) rfl nofun
  | .array ns => .call (.arrayPattern ns) rfl nofun

theorem ParamRecipe.continues : ∀ (r : ParamRecipe) {vs : List (Drafted Symbol)},
    Continues (fun x => [.param x]) vs r.run
  | .at s r => .bind (.call (.moveTo s) rfl nofun) fun _ => r.continues
  | .name n => .call (.param n) rfl nofun
  | .decorated n es => .call (.decoratedParam n es) rfl nofun
  | .pattern p es => .bind p.continues fun _ => .bind (DecoratorRecipe.continuesAll es) fun _ =>
    .call (.paramWith _ _) rfl (by simp +contextual)

theorem ParamRecipe.continuesAll : ∀ (rs : List ParamRecipe) {vs : List (Drafted Symbol)},
    Continues (List.map .param) vs (ParamRecipe.runAll rs)
  | [] => .pure nofun
  | r :: rs => .bind r.continues fun _ => .bind (ParamRecipe.continuesAll rs) fun _ =>
    .pure (by simp +contextual)

theorem StmtRecipe.continues : ∀ (r : StmtRecipe) {vs : List (Drafted Symbol)}, Continues (fun x => [.stmt x]) vs r.run
  | .at s r => .bind (.call (.moveTo s) rfl nofun) fun _ => r.continues
  | .expr e => .bind e.continues fun _ => .call (.exprStmt _) rfl (by simp)
  | .superCall as => .bind (ExprRecipe.continuesAll as) fun _ => .call (.superCall _) rfl (by simp +contextual)
  | .ret v => .bind (ExprRecipe.continuesOpt v) fun _ => .call (.ret _) rfl (by simp +contextual)
  | .letDecl n i => .bind (ExprRecipe.continuesOpt i) fun _ => .call (.letDecl n _) rfl (by simp +contextual)
  | .branch c b => .bind c.continues fun _ => .bind (StmtRecipe.continuesAll b) fun _ =>
    .call (.branch _ _) rfl (by simp +contextual)
  | .function n ps b => .bind (ParamRecipe.continuesAll ps) fun _ => .bind (StmtRecipe.continuesAll b) fun _ =>
    .call (.function n _ _) rfl (by simp +contextual)
  | .exportDecl d => .bind d.continues fun _ => .call (.exportDecl _) rfl (by simp)
  | .block ss => .bind (StmtRecipe.continuesAll ss) fun _ =>
    .bind (.call (.block _) rfl (by simp +contextual)) fun b =>
      .rewrap (x := .block b) (y := .stmt (.block b)) (by simp) (fun _ h => h) rfl
  | .classDef d => .bind d.continues fun d =>
    .rewrap (x := .classDecl d) (y := .stmt (.classDef d)) (by simp) (fun _ h => h) rfl

theorem StmtRecipe.continuesAll : ∀ (rs : List StmtRecipe) {vs : List (Drafted Symbol)},
    Continues (List.map .stmt) vs (StmtRecipe.runAll rs)
  | [] => .pure nofun
  | r :: rs => .bind r.continues fun _ => .bind (StmtRecipe.continuesAll rs) fun _ =>
    .pure (by simp +contextual)

theorem MemberRecipe.continues : ∀ (r : MemberRecipe) {vs : List (Drafted Symbol)},
    Continues (fun x => [.member x]) vs r.run
  | .at s r => .bind (.call (.moveTo s) rfl nofun) fun _ => r.continues
  | .ctor ps b => .bind (ParamRecipe.continuesAll ps) fun _ => .bind (StmtRecipe.continuesAll b) fun _ =>
    .call (.ctor _ _) rfl (by simp +contextual)
  | .method n ps b => .bind (ParamRecipe.continuesAll ps) fun _ => .bind (StmtRecipe.continuesAll b) fun _ =>
    .call (.method n _ _) rfl (by simp +contextual)
  | .field n i => .bind (ExprRecipe.continuesOpt i) fun _ => .call (.field n _) rfl (by simp +contextual)

theorem MemberRecipe.continuesAll : ∀ (rs : List MemberRecipe) {vs : List (Drafted Symbol)},
    Continues (List.map .member) vs (MemberRecipe.runAll rs)
  | [] => .pure nofun
  | r :: rs => .bind r.continues fun _ => .bind (MemberRecipe.continuesAll rs) fun _ =>
    .pure (by simp +contextual)

theorem ClassRecipe.continues : ∀ (r : ClassRecipe) {vs : List (Drafted Symbol)},
    Continues (fun d => [.classDecl d]) vs r.run
  | .at s r => .bind (.call (.moveTo s) rfl nofun) fun _ => r.continues
  | .plain n b ms => .bind (MemberRecipe.continuesAll ms) fun _ =>
    .call (.classDecl n b _) rfl (by simp +contextual)
  | .decorated es n b ms => .bind (MemberRecipe.continuesAll ms) fun _ =>
    .call (.decoratedClass es n b _) rfl (by simp +contextual)

end

theorem Recipe.continues : ∀ (r : Recipe) {vs : List (Drafted Symbol)}, Continues (fun x => [x]) vs r.run
  | .moveTo s => .bind (.call (.moveTo s) rfl nofun) fun _ => .pure (by simp)
  | .at s r => .bind (.call (.moveTo s) rfl nofun) fun _ => r.continues
  | .intern n => .bind (.call (.intern n) rfl nofun) fun _ => .pure (by simp)
  | .ident n => .bind (.call (.ident n) rfl nofun) fun _ => .pure (by simp)
  | .expr r => .bind r.continues fun _ => .pure (by simp)
  | .decorator r => .bind r.continues fun _ => .pure (by simp)
  | .pattern r => .bind r.continues fun _ => .pure (by simp)
  | .param r => .bind r.continues fun _ => .pure (by simp)
  | .stmt r => .bind r.continues fun _ => .pure (by simp)
  | .block ss => .bind (StmtRecipe.continuesAll ss) fun _ =>
    .bind (.call (.block _) rfl (by simp +contextual)) fun _ => .pure (by simp)
  | .member r => .bind r.continues fun _ => .pure (by simp)
  | .classDecl r => .bind r.continues fun _ => .pure (by simp)
  | .module ss => .bind (StmtRecipe.continuesAll ss) fun _ =>
    .bind (.call (.module _) rfl (by simp +contextual)) fun _ => .pure (by simp)

theorem Recipe.continuesAll : ∀ (rs : List Recipe) {vs : List (Drafted Symbol)},
    Continues (fun xs => xs) vs (rs.mapM Recipe.run)
  | [] => by
    rw [List.mapM_nil]
    exact .pure nofun
  | r :: rs => by
    rw [List.mapM_cons]
    exact .bind r.continues fun _ => .bind (Recipe.continuesAll rs) fun _ => .pure (by simp +contextual)

/-- **A recipe is a session**: what a program of recipes makes is made by calls, one after the other. -/
theorem Recipe.exists_drafts {program : List Recipe} {results : List (Drafted Symbol)} {t : NameTable}
    (h : Recipe.runProgram program = some (results, t)) :
    ∃ made d, Drafts made d ∧ d.table = t ∧ ∀ v ∈ results, v ∈ made := by
  obtain ⟨⟨xs, d⟩, hx, h⟩ := Option.bind_eq_some_iff.1 h
  obtain ⟨rfl, rfl⟩ := Prod.mk.inj (Option.some.inj h)
  obtain ⟨made, hd, -, hm⟩ := (Recipe.continuesAll program : Continues _ [] _) [] {} .start nofun xs d hx
  exact ⟨made, d, hd, rfl, hm⟩

end Recipes

/-! ## Runs over drafted modules -/

/-- The module after some runs, one after the other, each under its settings and for its file. -/
def Module.promoteEach (t : NameTable) (runs : List (Settings × String)) (p : Module Symbol) : Module Symbol :=
  runs.foldl (fun p run => (p.promote (run.1.rules t) run.2).1) p

theorem Module.mem_names_of_promoteEach (t : NameTable) : ∀ (runs : List (Settings × String)) (p : Module Symbol),
    ∀ y ∈ (p.promoteEach t runs).names, y ∈ p.names
  | [], _, _, hy => hy
  | run :: runs, p, y, hy => p.mem_names_of_promote _ run.2 y (mem_names_of_promoteEach t runs _ y hy)

/-- **Drafted modules never lead out of the table.**  Let a session have drafted a module, and let any runs be made over
it.  Then the symbols of the module are in the table of the session, and whatever the next run reports, its outcomes,
its errors and what it logs, can be named in this table, and so can its diagnostics. -/
theorem Drafts.resolve_of_promote {made : List (Drafted Symbol)} {d : Draft} (h : Drafts made d) {p : Module Symbol}
    (hp : .module p ∈ made) (runs : List (Settings × String)) (s : Settings) (file : String) :
    let t := d.table
    let p' := p.promoteEach t runs
    (∀ y ∈ p'.names, y.index < t.size) ∧
    ∃ R : Report String, (p'.promote (s.rules t) file).2.mapNames t.resolve = .ok R := by
  intro t p'
  have hk : ∀ y ∈ p'.names, t.Knows y := fun y hy => h.knows _ hp y (p.mem_names_of_promoteEach t runs y hy)
  obtain ⟨q, hq⟩ := (p'.exists_mapNames_iff t.resolve).2 hk
  exact ⟨fun y hy => NameTable.knows_iff.1 (hk y hy), _, (Module.promote_named (s.rules_named t) hq file).2⟩

/-- A marked class with a marked parameter, drafted by a recipe, and a second run over it. -/
theorem Drafts.resolve_of_promote_ofRecipe :
    let program : List Recipe := [.module [.classDef (.decorated [classMarkerName] paramMarkerName none
      [.ctor [.decorated paramMarkerName [paramMarkerName]] []])]]
    ∃ (p : Module Symbol) (t : NameTable), Recipe.runProgram program = some ([.module p], t) ∧
      (p.promote (Settings.rules {} t) "").2.propertyCount = 1 ∧
      (∀ y ∈ (p.promoteEach t [({}, "")]).names, y.index < t.size) ∧
      ∃ R : Report String,
        ((p.promoteEach t [({}, "")]).promote (Settings.rules {} t) "").2.mapNames t.resolve = .ok R := by
  intro program
  let id : Ident Symbol := ⟨default, .synthetic⟩
  let marker : Decorator Symbol := ⟨.ident ⟨⟨2, by decide⟩, .synthetic⟩, .synthetic⟩
  let param : Param Symbol := ⟨[⟨.ident id, .synthetic⟩], .ident id, none, .synthetic⟩
  let p : Module Symbol :=
    ⟨[.classDef ⟨[marker], id, none, [.ctor ⟨[param], ⟨[], .synthetic⟩, .synthetic⟩], .synthetic⟩], .synthetic⟩
  have h₁ : (DraftM.intern paramMarkerName).run {} = some (default, ⟨.ofName paramMarkerName, .synthetic⟩) :=
    DraftM.run_intern (NameTable.intern_of_find?_none (NameTable.find?_empty _) NameTable.nextNumber_empty_pos)
  have h₂ : (DraftM.intern paramMarkerName).run ⟨.ofName paramMarkerName, .synthetic⟩ =
      some (default, ⟨.ofName paramMarkerName, .synthetic⟩) :=
    DraftM.run_intern (NameTable.intern_of_find?_some ((NameTable.resolve_eq_ok_iff _ _ _).1 rfl))
  have h₃ : (DraftM.intern classMarkerName).run ⟨.ofName paramMarkerName, .synthetic⟩ =
      some (⟨2, by decide⟩, ⟨.ofMarkerNames, .synthetic⟩) :=
    DraftM.run_intern (NameTable.intern_of_find?_none (NameTable.find?_ofName NameTable.paramMarkerName_ne)
      (NameTable.nextNumber_ofName_pos _))
  have hr : Recipe.runProgram program = some ([.module p], .ofMarkerNames) := by
    simp [Recipe.runProgram, program, Recipe.run, StmtRecipe.runAll, StmtRecipe.run, ClassRecipe.run,
      MemberRecipe.runAll, MemberRecipe.run, ParamRecipe.runAll, ParamRecipe.run, DraftM.decoratedClass,
      DraftM.classDecl, DraftM.ctor, DraftM.block, DraftM.decoratedParam, DraftM.decorator, DraftM.identExpr,
      DraftM.ident, DraftM.here, DraftM.paramWith, DraftM.module, h₁, h₂, h₃, p, param, marker, id]
  obtain ⟨made, d, hd, ht, hm⟩ := Recipe.exists_drafts hr
  refine ⟨p, .ofMarkerNames, hr, ?_, ?_⟩
  · rw [Settings.rules, NameTable.markers_ofMarkerNames]
    rfl
  · have h := hd.resolve_of_promote (hm _ (List.mem_singleton_self _)) [({}, "")] {} ""
    rwa [ht] at h

end Promotion
