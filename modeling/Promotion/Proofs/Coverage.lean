import Mathlib.Data.List.Basic
import Promotion.Proofs.Syntax
/-!
# A walk comes to every node

A visitor with all hooks in place that enters every node comes to the nodes of the listing, one after the other
(`Module.visit_noting`).  The listing itself is characterised by what stands directly in a node: `Node.fields` gives, for
each shape of node, the nodes in its fields from left to right, and a node is listed before what is in its fields, which
follows field by field (`Node.listing_eq`).  An export list is the one node that is listed without what it holds.
-/
namespace Promotion

variable {ν : Type}

/-! ## The fields of a node -/

def Slot.fields : Slot ν → List (Node ν)
  | .hole => []
  | .item p d => .pattern p :: d.toList.map .expr

def PropertyPattern.fields (p : PropertyPattern ν) : List (Node ν) :=
  .ident p.key :: .pattern p.value :: p.default.toList.map .expr

namespace Node

/-- The nodes that stand in the fields of a node, field by field. -/
def fields : Node ν → List (Node ν)
  | .stmt x => match x with
    | .var d => [.var d]
    | .function d => [.function d]
    | .classDef d => [.classDecl d]
    | .exportDecl d => [.stmt d]
    | .exportNames ns _ => (ns.flatMap ExportName.idents).map .ident
    | .expr e _ => [.expr e]
    | .branch c t e _ => .expr c :: .stmt t :: e.toList.map .stmt
    | .loop c b _ => [.expr c, .stmt b]
    | .ret e _ => e.toList.map .expr
    | .throw e _ => [.expr e]
    | .block b => [.block b]
    | .empty _ => []
  | .var d => .pattern d.pattern :: d.initializer.toList.map .expr
  | .function d => .ident d.name :: (d.params.map .param ++ [.block d.body])
  | .classDecl d =>
    d.decorators.map .decorator ++ .ident d.name :: (d.base.toList.map .expr ++ d.members.map .member)
  | .member x => match x with
    | .field ds n i _ _ => ds.map .decorator ++ .ident n :: i.toList.map .expr
    | .method ds n ps b _ _ _ => ds.map .decorator ++ .ident n :: (ps.map .param ++ b.toList.map .block)
    | .ctor c => c.params.map .param ++ [.block c.body]
  | .param p => p.decorators.map .decorator ++ .pattern p.pattern :: p.default.toList.map .expr
  | .decorator d => [.expr d.expr]
  | .block b => b.statements.map .stmt
  | .expr e => match e with
    | .int .. | .str .. | .bool .. | .null _ | .this _ | .super _ => []
    | .ident id => [.ident id]
    | .array es _ => es.map .expr
    | .assign _ l r _ => [.expr l, .expr r]
    | .call c as _ => .expr c :: as.map .expr
    | .member o p _ _ => [.expr o, .ident p]
    | .new c as _ => .expr c :: as.map .expr
    | .arrow f => [.arrow f]
    | .paren e _ => [.expr e]
  | .arrow f => f.params.map .param ++ match f.body with
    | .expr e => [.expr e]
    | .block b => [.block b]
  | .pattern p => match p with
    | .ident id => [.ident id]
    | .array ss r _ => ss.flatMap Slot.fields ++ r.toList.map .pattern
    | .object ps r _ => ps.flatMap PropertyPattern.fields ++ r.toList.map .ident
    | .rest p _ => [.pattern p]
  | .ident _ => []

def isExportList : Node ν → Bool
  | .stmt (.exportNames ..) => true
  | _ => false

/-- The node, and after it the nodes inside it. -/
def listing : Node ν → List (Node ν)
  | .stmt x => x.nodes
  | .var d => d.nodes
  | .function d => d.nodes
  | .classDecl d => d.nodes
  | .member x => x.nodes
  | .param p => p.nodes
  | .decorator d => d.nodes
  | .block b => b.nodes
  | .expr e => e.nodes
  | .arrow f => f.nodes
  | .pattern p => p.nodes
  | .ident id => [.ident id]

end Node

/-! ## The listing, node by node -/

section Listing

theorem Slot.nodes_eq (x : Slot ν) : x.nodes = x.fields.flatMap Node.listing := by
  cases x <;> simp [Slot.nodes, Slot.fields, Node.listing, Expr.nodesOpt_eq, List.flatMap_map]

theorem PropertyPattern.nodes_eq (x : PropertyPattern ν) : x.nodes = x.fields.flatMap Node.listing := by
  cases x
  simp [PropertyPattern.nodes, PropertyPattern.fields, Node.listing, Expr.nodesOpt_eq, List.flatMap_map]

/-- **A node is listed first, and then what is in its fields, field by field**; only an export list is listed without
what is in its fields. -/
theorem Node.listing_eq (n : Node ν) :
    n.listing = n :: if n.isExportList then [] else n.fields.flatMap Node.listing := by
  have hl : ∀ {α : Type} (one : α → Node ν) (xs : List α),
      (xs.map one).flatMap Node.listing = xs.flatMap fun x => (one x).listing := fun _ _ => List.flatMap_map ..
  cases n with
  | stmt x =>
    cases x <;> simp [listing, fields, isExportList, hl, Stmt.nodes, ClassDecl.nodes, Stmt.nodesOpt_eq,
      Expr.nodesOpt_eq]
  | var d => cases d; simp [listing, fields, isExportList, hl, VarDecl.nodes, Expr.nodesOpt_eq]
  | function d => cases d; simp [listing, fields, isExportList, hl, FunctionDecl.nodes, Param.nodesAll_eq]
  | classDecl d =>
    cases d
    simp [listing, fields, isExportList, hl, ClassDecl.nodes, ClassDecl.inside, Decorator.nodesAll_eq,
      Expr.nodesOpt_eq, Member.nodesAll_eq]
  | member x =>
    cases x with
    | ctor c => cases c; simp [listing, fields, isExportList, hl, Member.nodes, Ctor.nodes, Param.nodesAll_eq]
    | _ => simp [listing, fields, isExportList, hl, Member.nodes, Decorator.nodesAll_eq, Param.nodesAll_eq,
        Expr.nodesOpt_eq, Block.nodesOpt_eq]
  | param p => cases p; simp [listing, fields, isExportList, hl, Param.nodes, Decorator.nodesAll_eq, Expr.nodesOpt_eq]
  | decorator d => cases d; simp [listing, fields, isExportList, Decorator.nodes]
  | block b => cases b; simp [listing, fields, isExportList, hl, Block.nodes, Stmt.nodesAll_eq]
  | expr e => cases e <;> simp [listing, fields, isExportList, hl, Expr.nodes, Expr.nodesAll_eq]
  | arrow f =>
    obtain ⟨ps, b, a, s⟩ := f
    cases b <;> simp [listing, fields, isExportList, hl, Arrow.nodes, ArrowBody.nodes, Param.nodesAll_eq]
  | pattern p =>
    cases p with
    | object ps r s =>
      have hp := funext (PropertyPattern.nodes_eq (ν := ν))
      cases r <;>
        simp [listing, fields, isExportList, Pattern.nodes, PropertyPattern.nodesAll_eq, List.flatMap_assoc, hp]
    | array ss r s =>
      have hs := funext (Slot.nodes_eq (ν := ν))
      simp [listing, fields, isExportList, hl, Pattern.nodes, Slot.nodesAll_eq, List.flatMap_assoc, Pattern.nodesOpt_eq,
        hs]
    | _ => simp [listing, fields, isExportList, Pattern.nodes]
  | ident id => rfl

end Listing

/-! ## The walk -/

section Walk

variable {m : Type → Type} [Monad m] [LawfulMonad m] (start : Module ν → m Unit) (note : Node ν → m Unit)

/-- A walk that does `note` at every node does it at the nodes of the listing, and leaves the part as it is. -/
theorem Hereditary.walk_noting : Hereditary fun A [∀ ν, Part ν (A ν)] [Syntax A] (x : A ν) =>
    Syntax.walk (.noting start note) x = do (Part.nodes x).forM note; return x where
  noParts := by simp [Syntax.walk, Part.nodes]
  ident id := by simp [Syntax.walk, Part.nodes]
  str y s := by simp [Syntax.walk, Part.nodes, Step.follow, Expr.descend, Expr.nodes]
  exportNames ns s := by simp [Syntax.walk, Part.nodes, Step.follow, Stmt.descend, Stmt.nodes]
  classDef d h := by
    have hd : d.descend (.noting start note) = do d.inside.forM note; return d := h
    simp [Syntax.walk, Part.nodes, Step.follow, Stmt.descend, Stmt.nodes, hd]
  prod {A B _ _ _ _ x y} hx hy := by
    have hw : Syntax.walk (A := fun ν => A ν × B ν) (.noting start note) (x, y) =
        do return (← Syntax.walk (.noting start note) x, ← Syntax.walk (.noting start note) y) := rfl
    have hn : Part.nodes (x, y) = Part.nodes x ++ Part.nodes y := rfl
    rw [hw, hn, hx, hy]
    simp
  plain hk x hx := by
    rw [hk.walk, hk.nodes, hx]
    simp
  headed hk x hx := by
    rw [hk.walk, hk.nodes, hx, Kind.hook_noting]
    simp [Step.follow]

/-- **A walk that enters every node comes to all nodes of the module in the order of the listing.** -/
theorem Module.visit_noting (p : Module ν) :
    p.visit (.noting start note) = do start p; p.nodes.forM note; return p := by
  have hp : p.descend (.noting start note) = do p.nodes.forM note; return p :=
    p.hereditary (Hereditary.walk_noting start note)
  unfold Module.visit
  rw [hp]
  simp [Step.follow]

end Walk

/-! ## The record of a walk -/

/-- What a walk comes to: the module, or a node in it. -/
inductive Visited (ν : Type) where
  | module (module : Module ν)
  | node (node : Node ν)

/-- Records everything that the walk comes to, in order, and enters it. -/
def Visitor.recorder : Visitor (StateM (List (Visited ν))) ν :=
  .noting (fun p => modify (· ++ [.module p])) (fun n => modify (· ++ [.node n]))

theorem run_forM_record : ∀ (ns : List (Node ν)) (s : List (Visited ν)),
    (ns.forM fun n => (modify (· ++ [.node n]) : StateM (List (Visited ν)) Unit)).run s = ((), s ++ ns.map .node)
  | [], s => by simp; rfl
  | n :: ns, s => by
    have h := run_forM_record ns (s ++ [.node n])
    rw [List.append_assoc] at h
    exact h

/-- **A walk comes to every node once, and changes nothing.**  With all hooks recording, the record of a walk is the
module and then the listing of its nodes.  In the listing each node stands before the nodes in its fields, these stand
in the order of the fields, and every field is followed but for the names in an export list. -/
theorem Module.record_of_visit (p : Module ν) :
    (p.visit .recorder).run [] = (p, .module p :: p.nodes.map .node) ∧
    p.nodes = (p.statements.map Node.stmt).flatMap Node.listing ∧
    ∀ n : Node ν, n.listing = n :: if n.isExportList then [] else n.fields.flatMap Node.listing := by
  refine ⟨?_, ?_, Node.listing_eq⟩
  · have hr := run_forM_record p.nodes [.module p]
    rw [Visitor.recorder, Module.visit_noting]
    exact congrArg (fun r => (p, r.2)) hr
  · rw [List.flatMap_map]
    exact Stmt.nodesAll_eq p.statements

end Promotion
