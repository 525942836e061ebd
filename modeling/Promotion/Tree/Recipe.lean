import Promotion.Tree.Draft
/-!
# Recipes for trees

A recipe is a program of drafting calls as data: the calls nest as the nodes do, and `at` moves to a span before the
call it is put around.  Running a recipe runs the calls inside it from left to right and then the call itself, so a
span set by a part stays in force for the whole, and names are interned in the order of the calls.
-/
namespace Promotion

mutual

inductive ExprRecipe where
  | at (span : Span) (recipe : ExprRecipe)
  | ident (name : String)
  | int (value : Int64)
  | str (value : String)
  | this
  | super
  | call (callee : ExprRecipe) (arguments : List ExprRecipe)
  | member (object : ExprRecipe) (property : String)
  | assign (left right : ExprRecipe)
  | paren (inner : ExprRecipe)
  | arrow (params : List ParamRecipe) (body : List StmtRecipe)

inductive DecoratorRecipe where
  | at (span : Span) (recipe : DecoratorRecipe)
  | name (name : String)
  | call (name : String) (arguments : List ExprRecipe)

inductive PatternRecipe where
  | at (span : Span) (recipe : PatternRecipe)
  | rest (name : String)
  | object (names : List String)
  | array (names : List String)

inductive ParamRecipe where
  | at (span : Span) (recipe : ParamRecipe)
  | name (name : String)
  | decorated (name : String) (decorators : List String)
  | pattern (pattern : PatternRecipe) (decorators : List DecoratorRecipe)

inductive StmtRecipe where
  | at (span : Span) (recipe : StmtRecipe)
  | expr (value : ExprRecipe)
  | superCall (arguments : List ExprRecipe)
  | ret (value : Option ExprRecipe)
  | letDecl (name : String) (initializer : Option ExprRecipe)
  | branch (condition : ExprRecipe) (body : List StmtRecipe)
  | function (name : String) (params : List ParamRecipe) (body : List StmtRecipe)
  | exportDecl (decl : StmtRecipe)
  | block (statements : List StmtRecipe)
  | classDef (decl : ClassRecipe)

inductive MemberRecipe where
  | at (span : Span) (recipe : MemberRecipe)
  | ctor (params : List ParamRecipe) (body : List StmtRecipe)
  | method (name : String) (params : List ParamRecipe) (body : List StmtRecipe)
  | field (name : String) (initializer : Option ExprRecipe)

inductive ClassRecipe where
  | at (span : Span) (recipe : ClassRecipe)
  | plain (name : String) (base : Option String) (members : List MemberRecipe)
  | decorated (decorators : List String) (name : String) (base : Option String) (members : List MemberRecipe)

end

mutual

def ExprRecipe.run : ExprRecipe → DraftM (Expr Symbol)
  | .at s r => do .moveTo s; r.run
  | .ident n => .identExpr n
  | .int v => .int v
  | .str v => .str v
  | .this => .this
  | .super => .super
  | .call c as => do .call (← c.run) (← ExprRecipe.runAll as)
  | .member o p => do .member (← o.run) p
  | .assign l r => do .assign (← l.run) (← r.run)
  | .paren e => do .paren (← e.run)
  | .arrow ps b => do .arrow (← ParamRecipe.runAll ps) (← StmtRecipe.runAll b)

def ExprRecipe.runAll : List ExprRecipe → DraftM (List (Expr Symbol))
  | [] => return []
  | r :: rs => do return (← r.run) :: (← ExprRecipe.runAll rs)

def ExprRecipe.runOpt : Option ExprRecipe → DraftM (Option (Expr Symbol))
  | none => return none
  | some r => do return some (← r.run)

def DecoratorRecipe.run : DecoratorRecipe → DraftM (Decorator Symbol)
  | .at s r => do .moveTo s; r.run
  | .name n => .decorator n
  | .call n as => do .decoratorCall n (← ExprRecipe.runAll as)

def DecoratorRecipe.runAll : List DecoratorRecipe → DraftM (List (Decorator Symbol))
  | [] => return []
  | r :: rs => do return (← r.run) :: (← DecoratorRecipe.runAll rs)

def PatternRecipe.run : PatternRecipe → DraftM (Pattern Symbol)
  | .at s r => do .moveTo s; r.run
  | .rest n => .restPattern n
  | .object ns => .objectPattern ns
  | .array ns => .arrayPattern ns

def ParamRecipe.run : ParamRecipe → DraftM (Param Symbol)
  | .at s r => do .moveTo s; r.run
  | .name n => .param n
  | .decorated n ds => .decoratedParam n ds
  | .pattern p ds => do .paramWith (← p.run) (← DecoratorRecipe.runAll ds)

def ParamRecipe.runAll : List ParamRecipe → DraftM (List (Param Symbol))
  | [] => return []
  | r :: rs => do return (← r.run) :: (← ParamRecipe.runAll rs)

def StmtRecipe.run : StmtRecipe → DraftM (Stmt Symbol)
  | .at s r => do .moveTo s; r.run
  | .expr e => do .exprStmt (← e.run)
  | .superCall as => do .superCall (← ExprRecipe.runAll as)
  | .ret v => do .ret (← ExprRecipe.runOpt v)
  | .letDecl n i => do .letDecl n (← ExprRecipe.runOpt i)
  | .branch c b => do .branch (← c.run) (← StmtRecipe.runAll b)
  | .function n ps b => do .function n (← ParamRecipe.runAll ps) (← StmtRecipe.runAll b)
  | .exportDecl d => do return .exportDecl (← d.run)
  | .block ss => do return .block (← .block (← StmtRecipe.runAll ss))
  | .classDef d => do return .classDef (← d.run)

def StmtRecipe.runAll : List StmtRecipe → DraftM (List (Stmt Symbol))
  | [] => return []
  | r :: rs => do return (← r.run) :: (← StmtRecipe.runAll rs)

def MemberRecipe.run : MemberRecipe → DraftM (Member Symbol)
  | .at s r => do .moveTo s; r.run
  | .ctor ps b => do .ctor (← ParamRecipe.runAll ps) (← StmtRecipe.runAll b)
  | .method n ps b => do .method n (← ParamRecipe.runAll ps) (← StmtRecipe.runAll b)
  | .field n i => do .field n (← ExprRecipe.runOpt i)

def MemberRecipe.runAll : List MemberRecipe → DraftM (List (Member Symbol))
  | [] => return []
  | r :: rs => do return (← r.run) :: (← MemberRecipe.runAll rs)

def ClassRecipe.run : ClassRecipe → DraftM (ClassDecl Symbol)
  | .at s r => do .moveTo s; r.run
  | .plain n b ms => do .classDecl n b (← MemberRecipe.runAll ms)
  | .decorated ds n b ms => do .decoratedClass ds n b (← MemberRecipe.runAll ms)

end

/-- One step of a drafting program. -/
inductive Recipe where
  | moveTo (span : Span)
  | at (span : Span) (recipe : Recipe)
  | intern (name : String)
  | ident (name : String)
  | expr (recipe : ExprRecipe)
  | decorator (recipe : DecoratorRecipe)
  | pattern (recipe : PatternRecipe)
  | param (recipe : ParamRecipe)
  | stmt (recipe : StmtRecipe)
  | block (statements : List StmtRecipe)
  | member (recipe : MemberRecipe)
  | classDecl (recipe : ClassRecipe)
  | module (statements : List StmtRecipe)

/-- What a step of a drafting program makes. -/
inductive Drafted (ν : Type) where
  | nothing
  | symbol (value : Symbol)
  | ident (value : Ident ν)
  | expr (value : Expr ν)
  | decorator (value : Decorator ν)
  | pattern (value : Pattern ν)
  | param (value : Param ν)
  | stmt (value : Stmt ν)
  | block (value : Block ν)
  | member (value : Member ν)
  | classDecl (value : ClassDecl ν)
  | module (value : Module ν)

def Recipe.run : Recipe → DraftM (Drafted Symbol)
  | .moveTo s => do .moveTo s; return .nothing
  | .at s r => do .moveTo s; r.run
  | .intern n => do return .symbol (← .intern n)
  | .ident n => do return .ident (← .ident n)
  | .expr r => do return .expr (← r.run)
  | .decorator r => do return .decorator (← r.run)
  | .pattern r => do return .pattern (← r.run)
  | .param r => do return .param (← r.run)
  | .stmt r => do return .stmt (← r.run)
  | .block ss => do return .block (← .block (← StmtRecipe.runAll ss))
  | .member r => do return .member (← r.run)
  | .classDecl r => do return .classDecl (← r.run)
  | .module ss => do return .module (← .module (← StmtRecipe.runAll ss))

/-- Runs the steps of a program in order from an empty table: what each of them makes, and the names at the end. -/
def Recipe.runProgram (program : List Recipe) : Option (List (Drafted Symbol) × NameTable) := do
  let (results, draft) ← (program.mapM Recipe.run).run {}
  return (results, draft.table)

end Promotion
