import Promotion.Tree.Basic
/-!
# Equality of trees

Two trees are equal when they have the same shape, names, literals, flags and spans.  `beq` compares them node by node,
and `beq_iff_eq` says that it decides equality; the `DecidableEq` instances are built on it.
-/
namespace Promotion

variable {ν : Type} [DecidableEq ν]

mutual

def Expr.beq : Expr ν → Expr ν → Bool
  | .int a s => fun
    | .int b t => a = b && s = t
    | _ => false
  | .str a s => fun
    | .str b t => a = b && s = t
    | _ => false
  | .bool a s => fun
    | .bool b t => a = b && s = t
    | _ => false
  | .null s => fun
    | .null t => s = t
    | _ => false
  | .ident a => fun
    | .ident b => a = b
    | _ => false
  | .array as s => fun
    | .array bs t => Expr.beqAll as bs && s = t
    | _ => false
  | .assign op l r s => fun
    | .assign op' l' r' t => op = op' && l.beq l' && r.beq r' && s = t
    | _ => false
  | .call c as s => fun
    | .call d bs t => c.beq d && Expr.beqAll as bs && s = t
    | _ => false
  | .member o p a s => fun
    | .member o' p' b t => o.beq o' && p = p' && a = b && s = t
    | _ => false
  | .new c as s => fun
    | .new d bs t => c.beq d && Expr.beqAll as bs && s = t
    | _ => false
  | .arrow f => fun
    | .arrow g => f.beq g
    | _ => false
  | .paren a s => fun
    | .paren b t => a.beq b && s = t
    | _ => false
  | .this s => fun
    | .this t => s = t
    | _ => false
  | .super s => fun
    | .super t => s = t
    | _ => false

def Expr.beqAll : List (Expr ν) → List (Expr ν) → Bool
  | [] => fun
    | [] => true
    | _ => false
  | a :: as => fun
    | b :: bs => a.beq b && Expr.beqAll as bs
    | _ => false

def Expr.beqOpt : Option (Expr ν) → Option (Expr ν) → Bool
  | none => fun
    | none => true
    | _ => false
  | some a => fun
    | some b => a.beq b
    | _ => false

def Arrow.beq : Arrow ν → Arrow ν → Bool
  | ⟨ps, b, a, s⟩ => fun ⟨ps', b', a', t⟩ => Param.beqAll ps ps' && b.beq b' && a = a' && s = t

def ArrowBody.beq : ArrowBody ν → ArrowBody ν → Bool
  | .expr a => fun
    | .expr b => a.beq b
    | _ => false
  | .block a => fun
    | .block b => a.beq b
    | _ => false

def Pattern.beq : Pattern ν → Pattern ν → Bool
  | .ident a => fun
    | .ident b => a = b
    | _ => false
  | .array as r s => fun
    | .array bs r' t => Slot.beqAll as bs && Pattern.beqOpt r r' && s = t
    | _ => false
  | .object as r s => fun
    | .object bs r' t => PropertyPattern.beqAll as bs && r = r' && s = t
    | _ => false
  | .rest a s => fun
    | .rest b t => a.beq b && s = t
    | _ => false

def Pattern.beqOpt : Option (Pattern ν) → Option (Pattern ν) → Bool
  | none => fun
    | none => true
    | _ => false
  | some a => fun
    | some b => a.beq b
    | _ => false

def Slot.beq : Slot ν → Slot ν → Bool
  | .hole => fun
    | .hole => true
    | _ => false
  | .item p d => fun
    | .item p' d' => p.beq p' && Expr.beqOpt d d'
    | _ => false

def Slot.beqAll : List (Slot ν) → List (Slot ν) → Bool
  | [] => fun
    | [] => true
    | _ => false
  | a :: as => fun
    | b :: bs => a.beq b && Slot.beqAll as bs
    | _ => false

def PropertyPattern.beq : PropertyPattern ν → PropertyPattern ν → Bool
  | ⟨k, v, d, s⟩ => fun ⟨k', v', d', t⟩ => k = k' && v.beq v' && Expr.beqOpt d d' && s = t

def PropertyPattern.beqAll : List (PropertyPattern ν) → List (PropertyPattern ν) → Bool
  | [] => fun
    | [] => true
    | _ => false
  | a :: as => fun
    | b :: bs => a.beq b && PropertyPattern.beqAll as bs
    | _ => false

def Param.beq : Param ν → Param ν → Bool
  | ⟨ds, p, d, s⟩ => fun ⟨ds', p', d', t⟩ => Decorator.beqAll ds ds' && p.beq p' && Expr.beqOpt d d' && s = t

def Param.beqAll : List (Param ν) → List (Param ν) → Bool
  | [] => fun
    | [] => true
    | _ => false
  | a :: as => fun
    | b :: bs => a.beq b && Param.beqAll as bs
    | _ => false

def Decorator.beq : Decorator ν → Decorator ν → Bool
  | ⟨a, s⟩ => fun ⟨b, t⟩ => a.beq b && s = t

def Decorator.beqAll : List (Decorator ν) → List (Decorator ν) → Bool
  | [] => fun
    | [] => true
    | _ => false
  | a :: as => fun
    | b :: bs => a.beq b && Decorator.beqAll as bs
    | _ => false

def Block.beq : Block ν → Block ν → Bool
  | ⟨as, s⟩ => fun ⟨bs, t⟩ => Stmt.beqAll as bs && s = t

def Block.beqOpt : Option (Block ν) → Option (Block ν) → Bool
  | none => fun
    | none => true
    | _ => false
  | some a => fun
    | some b => a.beq b
    | _ => false

def VarDecl.beq : VarDecl ν → VarDecl ν → Bool
  | ⟨k, p, i, s⟩ => fun ⟨k', p', i', t⟩ => k = k' && p.beq p' && Expr.beqOpt i i' && s = t

def FunctionDecl.beq : FunctionDecl ν → FunctionDecl ν → Bool
  | ⟨n, ps, b, a, s⟩ => fun ⟨n', ps', b', a', t⟩ => n = n' && Param.beqAll ps ps' && b.beq b' && a = a' && s = t

def ClassDecl.beq : ClassDecl ν → ClassDecl ν → Bool
  | ⟨ds, n, b, ms, s⟩ => fun ⟨ds', n', b', ms', t⟩ =>
    Decorator.beqAll ds ds' && n = n' && Expr.beqOpt b b' && Member.beqAll ms ms' && s = t

def Member.beq : Member ν → Member ν → Bool
  | .field ds n i a s => fun
    | .field ds' n' i' b t => Decorator.beqAll ds ds' && n = n' && Expr.beqOpt i i' && a = b && s = t
    | _ => false
  | .method ds n ps b st a s => fun
    | .method ds' n' ps' b' st' a' t =>
      Decorator.beqAll ds ds' && n = n' && Param.beqAll ps ps' && Block.beqOpt b b' && st = st' && a = a' && s = t
    | _ => false
  | .ctor a => fun
    | .ctor b => a.beq b
    | _ => false

def Member.beqAll : List (Member ν) → List (Member ν) → Bool
  | [] => fun
    | [] => true
    | _ => false
  | a :: as => fun
    | b :: bs => a.beq b && Member.beqAll as bs
    | _ => false

def Ctor.beq : Ctor ν → Ctor ν → Bool
  | ⟨ps, b, s⟩ => fun ⟨ps', b', t⟩ => Param.beqAll ps ps' && b.beq b' && s = t

def Stmt.beq : Stmt ν → Stmt ν → Bool
  | .var a => fun
    | .var b => a.beq b
    | _ => false
  | .function a => fun
    | .function b => a.beq b
    | _ => false
  | .classDef a => fun
    | .classDef b => a.beq b
    | _ => false
  | .exportDecl a => fun
    | .exportDecl b => a.beq b
    | _ => false
  | .exportNames as s => fun
    | .exportNames bs t => as = bs && s = t
    | _ => false
  | .expr a s => fun
    | .expr b t => a.beq b && s = t
    | _ => false
  | .branch c a e s => fun
    | .branch c' a' e' t => c.beq c' && a.beq a' && Stmt.beqOpt e e' && s = t
    | _ => false
  | .loop c a s => fun
    | .loop c' a' t => c.beq c' && a.beq a' && s = t
    | _ => false
  | .ret a s => fun
    | .ret b t => Expr.beqOpt a b && s = t
    | _ => false
  | .throw a s => fun
    | .throw b t => a.beq b && s = t
    | _ => false
  | .block a => fun
    | .block b => a.beq b
    | _ => false
  | .empty s => fun
    | .empty t => s = t
    | _ => false

def Stmt.beqAll : List (Stmt ν) → List (Stmt ν) → Bool
  | [] => fun
    | [] => true
    | _ => false
  | a :: as => fun
    | b :: bs => a.beq b && Stmt.beqAll as bs
    | _ => false

def Stmt.beqOpt : Option (Stmt ν) → Option (Stmt ν) → Bool
  | none => fun
    | none => true
    | _ => false
  | some a => fun
    | some b => a.beq b
    | _ => false

end

mutual

theorem Expr.beq_iff_eq (a b : Expr ν) : a.beq b = true ↔ a = b := by
  cases a <;> cases b <;>
    simp [Expr.beq, and_assoc, Expr.beq_iff_eq, Expr.beqAll_iff_eq, Arrow.beq_iff_eq]
termination_by structural a

theorem Expr.beqAll_iff_eq : ∀ as bs : List (Expr ν), Expr.beqAll as bs = true ↔ as = bs
  | [], [] => by simp [Expr.beqAll]
  | [], _ :: _ => by simp [Expr.beqAll]
  | _ :: _, [] => by simp [Expr.beqAll]
  | a :: as, b :: bs => by simp [Expr.beqAll, Expr.beq_iff_eq a b, Expr.beqAll_iff_eq as bs]
termination_by structural as => as

theorem Expr.beqOpt_iff_eq : ∀ a b : Option (Expr ν), Expr.beqOpt a b = true ↔ a = b
  | none, none => by simp [Expr.beqOpt]
  | none, some _ => by simp [Expr.beqOpt]
  | some _, none => by simp [Expr.beqOpt]
  | some a, some b => by simp [Expr.beqOpt, Expr.beq_iff_eq a b]
termination_by structural a => a

theorem Arrow.beq_iff_eq (a b : Arrow ν) : a.beq b = true ↔ a = b := by
  cases a
  cases b
  simp [Arrow.beq, and_assoc, Param.beqAll_iff_eq, ArrowBody.beq_iff_eq]
termination_by structural a

theorem ArrowBody.beq_iff_eq (a b : ArrowBody ν) : a.beq b = true ↔ a = b := by
  cases a <;> cases b <;>
    simp [ArrowBody.beq, Expr.beq_iff_eq, Block.beq_iff_eq]
termination_by structural a

theorem Pattern.beq_iff_eq (a b : Pattern ν) : a.beq b = true ↔ a = b := by
  cases a <;> cases b <;>
    simp [Pattern.beq, and_assoc, Pattern.beq_iff_eq, Slot.beqAll_iff_eq, Pattern.beqOpt_iff_eq,
      PropertyPattern.beqAll_iff_eq]
termination_by structural a

theorem Pattern.beqOpt_iff_eq : ∀ a b : Option (Pattern ν), Pattern.beqOpt a b = true ↔ a = b
  | none, none => by simp [Pattern.beqOpt]
  | none, some _ => by simp [Pattern.beqOpt]
  | some _, none => by simp [Pattern.beqOpt]
  | some a, some b => by simp [Pattern.beqOpt, Pattern.beq_iff_eq a b]
termination_by structural a => a

theorem Slot.beq_iff_eq (a b : Slot ν) : a.beq b = true ↔ a = b := by
  cases a <;> cases b <;>
    simp [Slot.beq, Pattern.beq_iff_eq, Expr.beqOpt_iff_eq]
termination_by structural a

theorem Slot.beqAll_iff_eq : ∀ as bs : List (Slot ν), Slot.beqAll as bs = true ↔ as = bs
  | [], [] => by simp [Slot.beqAll]
  | [], _ :: _ => by simp [Slot.beqAll]
  | _ :: _, [] => by simp [Slot.beqAll]
  | a :: as, b :: bs => by simp [Slot.beqAll, Slot.beq_iff_eq a b, Slot.beqAll_iff_eq as bs]
termination_by structural as => as

theorem PropertyPattern.beq_iff_eq (a b : PropertyPattern ν) : a.beq b = true ↔ a = b := by
  cases a
  cases b
  simp [PropertyPattern.beq, and_assoc, Pattern.beq_iff_eq, Expr.beqOpt_iff_eq]
termination_by structural a

theorem PropertyPattern.beqAll_iff_eq :
    ∀ as bs : List (PropertyPattern ν), PropertyPattern.beqAll as bs = true ↔ as = bs
  | [], [] => by simp [PropertyPattern.beqAll]
  | [], _ :: _ => by simp [PropertyPattern.beqAll]
  | _ :: _, [] => by simp [PropertyPattern.beqAll]
  | a :: as, b :: bs => by
    simp [PropertyPattern.beqAll, PropertyPattern.beq_iff_eq a b, PropertyPattern.beqAll_iff_eq as bs]
termination_by structural as => as

theorem Param.beq_iff_eq (a b : Param ν) : a.beq b = true ↔ a = b := by
  cases a
  cases b
  simp [Param.beq, and_assoc, Decorator.beqAll_iff_eq, Pattern.beq_iff_eq, Expr.beqOpt_iff_eq]
termination_by structural a

theorem Param.beqAll_iff_eq : ∀ as bs : List (Param ν), Param.beqAll as bs = true ↔ as = bs
  | [], [] => by simp [Param.beqAll]
  | [], _ :: _ => by simp [Param.beqAll]
  | _ :: _, [] => by simp [Param.beqAll]
  | a :: as, b :: bs => by simp [Param.beqAll, Param.beq_iff_eq a b, Param.beqAll_iff_eq as bs]
termination_by structural as => as

theorem Decorator.beq_iff_eq (a b : Decorator ν) : a.beq b = true ↔ a = b := by
  cases a
  cases b
  simp [Decorator.beq, Expr.beq_iff_eq]
termination_by structural a

theorem Decorator.beqAll_iff_eq : ∀ as bs : List (Decorator ν), Decorator.beqAll as bs = true ↔ as = bs
  | [], [] => by simp [Decorator.beqAll]
  | [], _ :: _ => by simp [Decorator.beqAll]
  | _ :: _, [] => by simp [Decorator.beqAll]
  | a :: as, b :: bs => by simp [Decorator.beqAll, Decorator.beq_iff_eq a b, Decorator.beqAll_iff_eq as bs]
termination_by structural as => as

theorem Block.beq_iff_eq (a b : Block ν) : a.beq b = true ↔ a = b := by
  cases a
  cases b
  simp [Block.beq, Stmt.beqAll_iff_eq]
termination_by structural a

theorem Block.beqOpt_iff_eq : ∀ a b : Option (Block ν), Block.beqOpt a b = true ↔ a = b
  | none, none => by simp [Block.beqOpt]
  | none, some _ => by simp [Block.beqOpt]
  | some _, none => by simp [Block.beqOpt]
  | some a, some b => by simp [Block.beqOpt, Block.beq_iff_eq a b]
termination_by structural a => a

theorem VarDecl.beq_iff_eq (a b : VarDecl ν) : a.beq b = true ↔ a = b := by
  cases a
  cases b
  simp [VarDecl.beq, and_assoc, Pattern.beq_iff_eq, Expr.beqOpt_iff_eq]
termination_by structural a

theorem FunctionDecl.beq_iff_eq (a b : FunctionDecl ν) : a.beq b = true ↔ a = b := by
  cases a
  cases b
  simp [FunctionDecl.beq, and_assoc, Param.beqAll_iff_eq, Block.beq_iff_eq]
termination_by structural a

theorem ClassDecl.beq_iff_eq (a b : ClassDecl ν) : a.beq b = true ↔ a = b := by
  cases a
  cases b
  simp [ClassDecl.beq, and_assoc, Decorator.beqAll_iff_eq, Expr.beqOpt_iff_eq, Member.beqAll_iff_eq]
termination_by structural a

theorem Member.beq_iff_eq (a b : Member ν) : a.beq b = true ↔ a = b := by
  cases a <;> cases b <;>
    simp [Member.beq, and_assoc, Decorator.beqAll_iff_eq, Expr.beqOpt_iff_eq, Param.beqAll_iff_eq,
      Block.beqOpt_iff_eq, Ctor.beq_iff_eq]
termination_by structural a

theorem Member.beqAll_iff_eq : ∀ as bs : List (Member ν), Member.beqAll as bs = true ↔ as = bs
  | [], [] => by simp [Member.beqAll]
  | [], _ :: _ => by simp [Member.beqAll]
  | _ :: _, [] => by simp [Member.beqAll]
  | a :: as, b :: bs => by simp [Member.beqAll, Member.beq_iff_eq a b, Member.beqAll_iff_eq as bs]
termination_by structural as => as

theorem Ctor.beq_iff_eq (a b : Ctor ν) : a.beq b = true ↔ a = b := by
  cases a
  cases b
  simp [Ctor.beq, and_assoc, Param.beqAll_iff_eq, Block.beq_iff_eq]
termination_by structural a

theorem Stmt.beq_iff_eq (a b : Stmt ν) : a.beq b = true ↔ a = b := by
  cases a <;> cases b <;>
    simp [Stmt.beq, and_assoc, VarDecl.beq_iff_eq, FunctionDecl.beq_iff_eq, ClassDecl.beq_iff_eq, Stmt.beq_iff_eq,
      Expr.beq_iff_eq, Expr.beqOpt_iff_eq, Stmt.beqOpt_iff_eq, Block.beq_iff_eq]
termination_by structural a

theorem Stmt.beqAll_iff_eq : ∀ as bs : List (Stmt ν), Stmt.beqAll as bs = true ↔ as = bs
  | [], [] => by simp [Stmt.beqAll]
  | [], _ :: _ => by simp [Stmt.beqAll]
  | _ :: _, [] => by simp [Stmt.beqAll]
  | a :: as, b :: bs => by simp [Stmt.beqAll, Stmt.beq_iff_eq a b, Stmt.beqAll_iff_eq as bs]
termination_by structural as => as

theorem Stmt.beqOpt_iff_eq : ∀ a b : Option (Stmt ν), Stmt.beqOpt a b = true ↔ a = b
  | none, none => by simp [Stmt.beqOpt]
  | none, some _ => by simp [Stmt.beqOpt]
  | some _, none => by simp [Stmt.beqOpt]
  | some a, some b => by simp [Stmt.beqOpt, Stmt.beq_iff_eq a b]
termination_by structural a => a

end

instance : DecidableEq (Expr ν) := fun a b => decidable_of_iff _ (Expr.beq_iff_eq a b)

instance : DecidableEq (Pattern ν) := fun a b => decidable_of_iff _ (Pattern.beq_iff_eq a b)

instance : DecidableEq (Param ν) := fun a b => decidable_of_iff _ (Param.beq_iff_eq a b)

instance : DecidableEq (Decorator ν) := fun a b => decidable_of_iff _ (Decorator.beq_iff_eq a b)

instance : DecidableEq (Block ν) := fun a b => decidable_of_iff _ (Block.beq_iff_eq a b)

instance : DecidableEq (ClassDecl ν) := fun a b => decidable_of_iff _ (ClassDecl.beq_iff_eq a b)

instance : DecidableEq (Member ν) := fun a b => decidable_of_iff _ (Member.beq_iff_eq a b)

instance : DecidableEq (Ctor ν) := fun a b => decidable_of_iff _ (Ctor.beq_iff_eq a b)

instance : DecidableEq (Stmt ν) := fun a b => decidable_of_iff _ (Stmt.beq_iff_eq a b)

instance : DecidableEq (Module ν) := fun a b =>
  decidable_of_iff (Stmt.beqAll a.statements b.statements && a.span = b.span) (by
    cases a
    cases b
    simp [Stmt.beqAll_iff_eq])

end Promotion
