import Promotion.Tree.Basic
/-!
# Trees without their spans

`eraseSpans` puts the synthetic span in the place of every span of a tree, at any depth, and keeps all else: what the
nodes are, their names, numbers, operators and flags, and what stands in what.  Two trees that it makes equal differ at
most in where they were read from.

A tree has the constructor of its erasure, and its parts have the parts of the erasure for theirs.  The lemmas at the end
say so for the constructors of the statement `this.x = x;`.
-/
namespace Promotion

variable {ν : Type}

def Ident.eraseSpans (id : Ident ν) : Ident ν := ⟨id.name, .synthetic⟩

def ExportName.eraseSpans (n : ExportName ν) : ExportName ν :=
  ⟨n.name.eraseSpans, n.exportedAs.map Ident.eraseSpans⟩

mutual

def Expr.eraseSpans : Expr ν → Expr ν
  | .int v _ => .int v .synthetic
  | .str v _ => .str v .synthetic
  | .bool v _ => .bool v .synthetic
  | .null _ => .null .synthetic
  | .ident id => .ident id.eraseSpans
  | .array es _ => .array (Expr.eraseSpansAll es) .synthetic
  | .assign op l r _ => .assign op l.eraseSpans r.eraseSpans .synthetic
  | .call c as _ => .call c.eraseSpans (Expr.eraseSpansAll as) .synthetic
  | .member o p opt _ => .member o.eraseSpans p.eraseSpans opt .synthetic
  | .new c as _ => .new c.eraseSpans (Expr.eraseSpansAll as) .synthetic
  | .arrow fn => .arrow fn.eraseSpans
  | .paren e _ => .paren e.eraseSpans .synthetic
  | .this _ => .this .synthetic
  | .super _ => .super .synthetic

def Expr.eraseSpansAll : List (Expr ν) → List (Expr ν)
  | [] => []
  | e :: es => e.eraseSpans :: Expr.eraseSpansAll es

def Expr.eraseSpansOpt : Option (Expr ν) → Option (Expr ν)
  | none => none
  | some e => some e.eraseSpans

def Arrow.eraseSpans : Arrow ν → Arrow ν
  | ⟨ps, b, a, _⟩ => ⟨Param.eraseSpansAll ps, b.eraseSpans, a, .synthetic⟩

def ArrowBody.eraseSpans : ArrowBody ν → ArrowBody ν
  | .expr e => .expr e.eraseSpans
  | .block b => .block b.eraseSpans

def Pattern.eraseSpans : Pattern ν → Pattern ν
  | .ident id => .ident id.eraseSpans
  | .array ss r _ => .array (Slot.eraseSpansAll ss) (Pattern.eraseSpansOpt r) .synthetic
  | .object ps r _ => .object (PropertyPattern.eraseSpansAll ps) (r.map Ident.eraseSpans) .synthetic
  | .rest p _ => .rest p.eraseSpans .synthetic

def Pattern.eraseSpansOpt : Option (Pattern ν) → Option (Pattern ν)
  | none => none
  | some p => some p.eraseSpans

def Slot.eraseSpans : Slot ν → Slot ν
  | .hole => .hole
  | .item p d => .item p.eraseSpans (Expr.eraseSpansOpt d)

def Slot.eraseSpansAll : List (Slot ν) → List (Slot ν)
  | [] => []
  | x :: xs => x.eraseSpans :: Slot.eraseSpansAll xs

def PropertyPattern.eraseSpans : PropertyPattern ν → PropertyPattern ν
  | ⟨k, v, d, _⟩ => ⟨k.eraseSpans, v.eraseSpans, Expr.eraseSpansOpt d, .synthetic⟩

def PropertyPattern.eraseSpansAll : List (PropertyPattern ν) → List (PropertyPattern ν)
  | [] => []
  | p :: ps => p.eraseSpans :: PropertyPattern.eraseSpansAll ps

def Param.eraseSpans : Param ν → Param ν
  | ⟨ds, p, d, _⟩ => ⟨Decorator.eraseSpansAll ds, p.eraseSpans, Expr.eraseSpansOpt d, .synthetic⟩

def Param.eraseSpansAll : List (Param ν) → List (Param ν)
  | [] => []
  | p :: ps => p.eraseSpans :: Param.eraseSpansAll ps

def Decorator.eraseSpans : Decorator ν → Decorator ν
  | ⟨e, _⟩ => ⟨e.eraseSpans, .synthetic⟩

def Decorator.eraseSpansAll : List (Decorator ν) → List (Decorator ν)
  | [] => []
  | d :: ds => d.eraseSpans :: Decorator.eraseSpansAll ds

def Block.eraseSpans : Block ν → Block ν
  | ⟨ss, _⟩ => ⟨Stmt.eraseSpansAll ss, .synthetic⟩

def Block.eraseSpansOpt : Option (Block ν) → Option (Block ν)
  | none => none
  | some b => some b.eraseSpans

def VarDecl.eraseSpans : VarDecl ν → VarDecl ν
  | ⟨k, p, i, _⟩ => ⟨k, p.eraseSpans, Expr.eraseSpansOpt i, .synthetic⟩

def FunctionDecl.eraseSpans : FunctionDecl ν → FunctionDecl ν
  | ⟨n, ps, b, a, _⟩ => ⟨n.eraseSpans, Param.eraseSpansAll ps, b.eraseSpans, a, .synthetic⟩

def ClassDecl.eraseSpans : ClassDecl ν → ClassDecl ν
  | ⟨ds, n, b, ms, _⟩ =>
    ⟨Decorator.eraseSpansAll ds, n.eraseSpans, Expr.eraseSpansOpt b, Member.eraseSpansAll ms, .synthetic⟩

def Member.eraseSpans : Member ν → Member ν
  | .field ds n i st _ => .field (Decorator.eraseSpansAll ds) n.eraseSpans (Expr.eraseSpansOpt i) st .synthetic
  | .method ds n ps b st a _ =>
    .method (Decorator.eraseSpansAll ds) n.eraseSpans (Param.eraseSpansAll ps) (Block.eraseSpansOpt b) st a .synthetic
  | .ctor c => .ctor c.eraseSpans

def Member.eraseSpansAll : List (Member ν) → List (Member ν)
  | [] => []
  | x :: xs => x.eraseSpans :: Member.eraseSpansAll xs

def Ctor.eraseSpans : Ctor ν → Ctor ν
  | ⟨ps, b, _⟩ => ⟨Param.eraseSpansAll ps, b.eraseSpans, .synthetic⟩

def Stmt.eraseSpans : Stmt ν → Stmt ν
  | .var d => .var d.eraseSpans
  | .function d => .function d.eraseSpans
  | .classDef d => .classDef d.eraseSpans
  | .exportDecl d => .exportDecl d.eraseSpans
  | .exportNames ns _ => .exportNames (ns.map ExportName.eraseSpans) .synthetic
  | .expr e _ => .expr e.eraseSpans .synthetic
  | .branch c t e _ => .branch c.eraseSpans t.eraseSpans (Stmt.eraseSpansOpt e) .synthetic
  | .loop c b _ => .loop c.eraseSpans b.eraseSpans .synthetic
  | .ret v _ => .ret (Expr.eraseSpansOpt v) .synthetic
  | .throw v _ => .throw v.eraseSpans .synthetic
  | .block b => .block b.eraseSpans
  | .empty _ => .empty .synthetic

def Stmt.eraseSpansAll : List (Stmt ν) → List (Stmt ν)
  | [] => []
  | x :: xs => x.eraseSpans :: Stmt.eraseSpansAll xs

def Stmt.eraseSpansOpt : Option (Stmt ν) → Option (Stmt ν)
  | none => none
  | some x => some x.eraseSpans

end

theorem Ident.eraseSpans_eq_iff {a b : Ident ν} : a.eraseSpans = b.eraseSpans ↔ a.name = b.name := by
  simp [Ident.eraseSpans]

/-! ## What a tree is, by its erasure -/

theorem Expr.eq_this_of_eraseSpans {e : Expr ν} {s : Span} (h : e.eraseSpans = .this s) : ∃ s', e = .this s' := by
  cases e with
  | this s' => exact ⟨s', rfl⟩
  | _ => cases h

theorem Expr.eq_ident_of_eraseSpans {e : Expr ν} {id : Ident ν} (h : e.eraseSpans = .ident id) :
    ∃ id', e = .ident id' ∧ id'.eraseSpans = id := by
  cases e with
  | ident id' => exact ⟨id', rfl, Expr.ident.inj h⟩
  | _ => cases h

theorem Expr.eq_member_of_eraseSpans {e o : Expr ν} {p : Ident ν} {opt : Bool} {s : Span}
    (h : e.eraseSpans = .member o p opt s) :
    ∃ o' p' s', e = .member o' p' opt s' ∧ o'.eraseSpans = o ∧ p'.eraseSpans = p := by
  cases e with
  | member o' p' opt' s' =>
    obtain ⟨ho, hp, rfl, -⟩ := Expr.member.inj h
    exact ⟨o', p', s', rfl, ho, hp⟩
  | _ => cases h

theorem Expr.eq_assign_of_eraseSpans {e l r : Expr ν} {op : AssignOp} {s : Span}
    (h : e.eraseSpans = .assign op l r s) :
    ∃ l' r' s', e = .assign op l' r' s' ∧ l'.eraseSpans = l ∧ r'.eraseSpans = r := by
  cases e with
  | assign op' l' r' s' =>
    obtain ⟨rfl, hl, hr, -⟩ := Expr.assign.inj h
    exact ⟨l', r', s', rfl, hl, hr⟩
  | _ => cases h

theorem Stmt.eq_expr_of_eraseSpans {x : Stmt ν} {e : Expr ν} {s : Span} (h : x.eraseSpans = .expr e s) :
    ∃ e' s', x = .expr e' s' ∧ e'.eraseSpans = e := by
  cases x with
  | expr e' s' => exact ⟨e', s', rfl, (Stmt.expr.inj h).1⟩
  | _ => cases h

end Promotion
